import ServerRS.FollowUp.Identity
import ServerRS.Lib.BoundedScan

/-!
# The three windows of the scheduler

What each scan sees of the store is a desk: the facts or questions it may materialise and the
items that are due. One lemma a statement says what the statement does to each desk: the
settling statements leave the desks of follow-ups alone, each materialisation and each
production works on its own desk.
-/

namespace ServerRS.FollowUp

open Lib Lib.BoundedScan

variable {uuid : Nat → Purpose → Uuid} {old : List Uuid} {params : ScanParams} {s t : Store}
  {k clock limit : Nat}

def followUpDesk (eligible : List MemoryFactRow) (reason : ReasonCode) (isDue : FollowUpItem → Bool)
    (s : Store) : Desk MemoryFactRow FollowUpItem where
  eligible := eligible
  made fact := s.hasFollowUp fact.factId reason
  due := s.followUps.filter isDue
  served item := s.hasCandidate item.source

namespace Store

variable (s : Store)

def isDueCommitment (now : Int) (item : FollowUpItem) : Bool :=
  item.status = .scheduled && decide (item.dueAtUnixSecs ≤ now) &&
    s.ofFact (s.standing FactPayload.isPendingCommitment) item

def isDueProject (now : Int) (item : FollowUpItem) : Bool :=
  item.status = .scheduled && item.reasonCode = .projectBlocked &&
    decide (item.dueAtUnixSecs ≤ now) && s.ofFact (s.standing FactPayload.isBlockedProject) item

end Store

variable {now escalation horizon : Int} {item : FollowUpItem} {p : MemoryFactRow → Bool}
  {fact : MemoryFactRow} {payload : FactPayload} {rows : List ResponseExpectation}
  {row : ResponseExpectation} {status : FollowUpStatus}

theorem Store.mem_dueCommitments : item ∈ s.dueCommitments now ↔
    item ∈ s.followUps ∧ s.isDueCommitment now item = true :=
  List.mem_filter

theorem Store.mem_dueProjects : item ∈ s.dueProjects now ↔
    item ∈ s.followUps ∧ s.isDueProject now item = true :=
  List.mem_filter

def commitmentDesk (params : ScanParams) (s : Store) : Desk MemoryFactRow FollowUpItem :=
  followUpDesk (s.eligibleCommitments params.horizon) .commitmentDue
    (s.isDueCommitment params.nowUnixSecs) s

def projectDesk (params : ScanParams) (s : Store) : Desk MemoryFactRow FollowUpItem :=
  followUpDesk (s.eligibleProjects params.blockerEscalationSecs params.horizon) .projectBlocked
    (s.isDueProject params.nowUnixSecs) s

def expectationDesk (params : ScanParams) (s : Store) : Desk OverdueQuestion ResponseExpectation where
  eligible := s.eligibleQuestions params.responseTimeoutSecs params.horizon
  made question := s.hasExpectation question.questionId
  due := s.dueExpectations params.nowUnixSecs
  served expectation := s.hasCandidate expectation.source

/-! ## Facts -/

theorem Store.Keyed.fact_eq (h : s.Keyed) {a b : MemoryFactRow} (ha : a ∈ s.facts) (hb : b ∈ s.facts)
    (hid : a.factId = b.factId) : a = b :=
  eq_of_key_eq h.factIds ha hb hid

theorem Store.ofFact_iff : s.ofFact p item = true ↔
    ∃ fact ∈ s.facts, fact.factId = item.sourceMemoryFactId ∧ p fact = true := by
  simp [ofFact]

theorem Store.standing_iff {p : FactPayload → Bool} :
    s.standing p fact = true ↔ fact.factStatus = .confirmed ∧
      s.hasSuccessor fact.factId = false ∧ p fact.payload = true := by
  simp [standing, and_assoc]

theorem Store.Keyed.ofFact_and (h : s.Keyed) {q : MemoryFactRow → Bool} (hp : s.ofFact p item = true)
    (hq : s.ofFact q item = true) : ∃ fact ∈ s.facts, p fact = true ∧ q fact = true := by
  obtain ⟨fact, hfact, hid, hpf⟩ := Store.ofFact_iff.mp hp
  obtain ⟨other, hoth, hid', hqf⟩ := Store.ofFact_iff.mp hq
  rw [h.fact_eq hoth hfact (hid'.trans hid.symm)] at hqf
  exact ⟨fact, hfact, hpf, hqf⟩

theorem FactPayload.pending_exclusive (h : payload.isPendingCommitment = true) :
    payload.isFulfilled = false ∧
      payload.isCancelled = false ∧ payload.isBlockedProject = false := by
  cases payload with
  | person => simp [isPendingCommitment] at h
  | project blockers => simp [isPendingCommitment] at h
  | commitment due status => cases status <;> simp_all [isPendingCommitment, isFulfilled,
      isCancelled, isBlockedProject]

theorem FactPayload.blocked_exclusive (h : payload.isBlockedProject = true) :
    payload.isFulfilled = false ∧
      payload.isCancelled = false := by
  cases payload with
  | person => exact ⟨rfl, rfl⟩
  | project blockers => exact ⟨rfl, rfl⟩
  | commitment due status => simp [isBlockedProject] at h

theorem Store.Keyed.not_due_twice (h : s.Keyed) (hcom : s.isDueCommitment now item = true) :
    s.isDueProject now item = false := by
  rw [Bool.eq_false_iff]
  intro hproj
  simp only [Store.isDueCommitment, Store.isDueProject, Bool.and_eq_true] at hcom hproj
  obtain ⟨fact, -, hfact, hfact'⟩ := h.ofFact_and hcom.2 hproj.2
  have hnot := (FactPayload.pending_exclusive (Store.standing_iff.mp hfact).2.2).2.2
  rw [(Store.standing_iff.mp hfact').2.2] at hnot
  exact Bool.noConfusion hnot

/-! ## Settling follow-ups -/

/-- The rows an `UPDATE` with a `LIMIT` meets. -/
def chosen {α : Type} (key : α → Nat ×ₗ Uuid) (limit : Nat) (cond : α → Bool) (rows : List α)
    (row : α) : Bool :=
  ((firstRows key limit (rows.filter cond)).map fun row => (ofLex (key row)).2).contains
    (ofLex (key row)).2

theorem chosen_cond {α : Type} {key : α → Nat ×ₗ Uuid} {cond : α → Bool} {rows : List α}
    (hkey : (rows.map fun row => (ofLex (key row)).2).Nodup) {row : α} (hrow : row ∈ rows)
    (h : chosen key limit cond rows row = true) : cond row = true := by
  rw [chosen, List.contains_iff_mem] at h
  obtain ⟨other, hoth, heq⟩ := List.mem_map.mp h
  obtain ⟨hmem, hcond⟩ := List.mem_filter.mp (mem_of_mem_firstRows hoth)
  rwa [← eq_of_key_eq hkey hmem hrow heq]

/-- A settling statement leaves alone the items it cannot meet. -/
theorem followUpDesk_settle (hkeyed : s.Keyed) {eligible : List MemoryFactRow} {reason : ReasonCode}
    {isDue cond : FollowUpItem → Bool}
    (hfin : ∀ item : FollowUpItem, isDue (item.finish clock status) = false)
    (hcond : ∀ item, cond item = true → isDue item = false) :
    followUpDesk eligible reason isDue { s with
      followUps := updateFirst FollowUpItem.byUpdate limit cond (.finish clock status) s.followUps } =
      followUpDesk eligible reason isDue s := by
  have hdue : (updateFirst FollowUpItem.byUpdate limit cond (.finish clock status) s.followUps).filter
      isDue = s.followUps.filter isDue :=
    filter_updateWhere_eq (fun item _ => hfin item) fun item hitem hchos =>
      hcond item (chosen_cond hkeyed.followUpIds hitem hchos)
  have hmade (fact : MemoryFactRow) : (updateFirst FollowUpItem.byUpdate limit cond
      (.finish clock status) s.followUps).any (fun item => decide
        (item.sourceMemoryFactId = fact.factId) && decide (item.reasonCode = reason)) =
      s.followUps.any fun item => decide (item.sourceMemoryFactId = fact.factId) &&
        decide (item.reasonCode = reason) :=
    any_updateWhere fun _ => rfl
  rw [followUpDesk, followUpDesk, Desk.mk.injEq]
  exact ⟨rfl, funext hmade, hdue, rfl⟩

theorem not_due_of_finish (hstat : status ≠ .scheduled) (item : FollowUpItem) :
    s.isDueCommitment params.nowUnixSecs (item.finish clock status) = false ∧
      s.isDueProject params.nowUnixSecs (item.finish clock status) = false := by
  simp [Store.isDueCommitment, Store.isDueProject, FollowUpItem.finish, hstat]

theorem Store.Keyed.not_due_of_superseded (h : s.Keyed) (hitem : s.isSuperseded item = true) :
    s.isDueCommitment params.nowUnixSecs item = false ∧
      s.isDueProject params.nowUnixSecs item = false := by
  rw [Store.isSuperseded, Bool.and_eq_true] at hitem
  constructor
  · rw [Bool.eq_false_iff]
    intro hdue
    rw [Store.isDueCommitment, Bool.and_eq_true] at hdue
    obtain ⟨fact, -, hgone, hstand⟩ := h.ofFact_and hitem.2 hdue.2
    obtain ⟨hconf, hsuc, hpay⟩ := Store.standing_iff.mp hstand
    simp [hconf, hsuc, (FactPayload.pending_exclusive hpay).2.1] at hgone
  · rw [Bool.eq_false_iff]
    intro hdue
    rw [Store.isDueProject, Bool.and_eq_true] at hdue
    obtain ⟨fact, -, hgone, hstand⟩ := h.ofFact_and hitem.2 hdue.2
    obtain ⟨hconf, hsuc, hpay⟩ := Store.standing_iff.mp hstand
    simp [hconf, hsuc, (FactPayload.blocked_exclusive hpay).2] at hgone

theorem Store.Keyed.not_due_of_completed (h : s.Keyed) (hitem : s.isCompleted item = true) :
    s.isDueCommitment params.nowUnixSecs item = false ∧
      s.isDueProject params.nowUnixSecs item = false := by
  rw [Store.isCompleted, Bool.and_eq_true] at hitem
  constructor
  · rw [Bool.eq_false_iff]
    intro hdue
    rw [Store.isDueCommitment, Bool.and_eq_true] at hdue
    obtain ⟨fact, -, hdone, hstand⟩ := h.ofFact_and hitem.2 hdue.2
    have hnot := (FactPayload.pending_exclusive (Store.standing_iff.mp hstand).2.2).1
    rw [(Store.standing_iff.mp hdone).2.2] at hnot
    exact Bool.noConfusion hnot
  · rw [Bool.eq_false_iff]
    intro hdue
    rw [Store.isDueProject, Bool.and_eq_true] at hdue
    obtain ⟨fact, -, hdone, hstand⟩ := h.ofFact_and hitem.2 hdue.2
    have hnot := (FactPayload.blocked_exclusive (Store.standing_iff.mp hstand).2.2).1
    rw [(Store.standing_iff.mp hdone).2.2] at hnot
    exact Bool.noConfusion hnot

/-- Superseding and completing items touches no item that is due. -/
theorem desks_supersede (h : s.Keyed) :
    commitmentDesk params (s.supersede clock limit) = commitmentDesk params s ∧
      projectDesk params (s.supersede clock limit) = projectDesk params s :=
  ⟨followUpDesk_settle h (fun item => (not_due_of_finish FollowUpStatus.noConfusion item).1)
      fun _ hitem => (h.not_due_of_superseded hitem).1,
    followUpDesk_settle h (fun item => (not_due_of_finish FollowUpStatus.noConfusion item).2)
      fun _ hitem => (h.not_due_of_superseded hitem).2⟩

theorem desks_complete (h : s.Keyed) :
    commitmentDesk params (s.complete clock limit) = commitmentDesk params s ∧
      projectDesk params (s.complete clock limit) = projectDesk params s :=
  ⟨followUpDesk_settle h (fun item => (not_due_of_finish FollowUpStatus.noConfusion item).1)
      fun _ hitem => (h.not_due_of_completed hitem).1,
    followUpDesk_settle h (fun item => (not_due_of_finish FollowUpStatus.noConfusion item).2)
      fun _ hitem => (h.not_due_of_completed hitem).2⟩

/-! ## Materialising -/

section Materialize

variable {eligible : List MemoryFactRow} {reason : ReasonCode} {make : MemoryFactRow → FollowUpItem}
  {isDue inTime : FollowUpItem → Bool}

theorem MemoryFactRow.byUpdate_nodup (h : (eligible.map MemoryFactRow.factId).Nodup) :
    (eligible.map MemoryFactRow.byUpdate).Nodup := by
  refine List.pairwise_map.mpr ((List.pairwise_map.mp h).imp fun {a b} hab heq => hab ?_)
  exact congrArg (fun key => (ofLex key).2) heq

theorem window_pairwise (limit : Nat) (h : (eligible.map MemoryFactRow.factId).Nodup) :
    (firstRows MemoryFactRow.byUpdate limit eligible).Pairwise fun a b => a.factId ≠ b.factId := by
  have hwdw : (firstRows MemoryFactRow.byUpdate limit eligible).Subperm eligible := firstRows_subperm
  obtain ⟨rows, hrows, hsub⟩ := hwdw
  exact List.pairwise_map.mp (((hrows.map MemoryFactRow.factId).nodup_iff).mp
    ((hsub.map MemoryFactRow.factId).nodup h))

/-- Materialisation makes the items of the first eligible facts. -/
theorem materialises_followUps (hfr : NeverRepeats uuid old) (h : Named uuid old s)
    (hmake : ∀ fact, (make fact).followUpId = uuid k (.followUp fact.factId reason) ∧
      (make fact).sourceMemoryFactId = fact.factId ∧ (make fact).reasonCode = reason)
    (helig : (eligible.map MemoryFactRow.factId).Nodup)
    (hdue : ∀ fact ∈ eligible, isDue (make fact) = inTime (make fact)) :
    Materialises limit MemoryFactRow.byUpdate make inTime (followUpDesk eligible reason isDue s)
      (followUpDesk eligible reason isDue { s with
        followUps := insertIgnore FollowUpItem.conflicts s.followUps
          ((firstRows MemoryFactRow.byUpdate limit eligible).map make) }) := by
  have hins := insert_followUps hfr h hmake (window_pairwise limit helig)
  have hkey := MemoryFactRow.byUpdate_nodup helig
  refine ⟨rfl, fun fact hfact => ?_, ?_, fun _ h => h⟩
  · change Store.hasFollowUp _ fact.factId reason = true ↔ s.hasFollowUp fact.factId reason = true ∨ _
    rw [Store.hasFollowUp]
    dsimp only
    rw [hins, List.any_append, Bool.or_eq_true, ← Store.hasFollowUp]
    constructor
    · rintro (hold | hnew)
      · exact .inl hold
      · obtain ⟨item, hitem, hsame⟩ := List.any_eq_true.mp hnew
        obtain ⟨other, hoth, rfl⟩ := List.mem_map.mp hitem
        obtain ⟨hwdw, -⟩ := List.mem_filter.mp hoth
        rw [(hmake other).2.1, Bool.and_eq_true, decide_eq_true_iff] at hsame
        have heq := eq_of_key_eq helig (mem_of_mem_firstRows hwdw) hfact hsame.1
        rw [heq] at hwdw
        exact .inr ((mem_firstRows hkey).mp hwdw).2
    · rintro (hold | hrank)
      · exact .inl hold
      · cases hmade : s.hasFollowUp fact.factId reason with
        | true => exact .inl rfl
        | false =>
          have hwdw := (mem_firstRows hkey).mpr ⟨hfact, hrank⟩
          refine .inr (List.any_eq_true.mpr ⟨make fact, List.mem_map_of_mem
            (List.mem_filter.mpr ⟨hwdw, by rw [hmade]; rfl⟩), ?_⟩)
          simp [(hmake fact).2]
  · change (List.filter isDue (insertIgnore _ _ _)).Perm (s.followUps.filter isDue ++ _)
    rw [hins, List.filter_append]
    refine List.Perm.append_left _ ?_
    have hnew : ((firstRows MemoryFactRow.byUpdate limit eligible).filter fun fact =>
        !s.hasFollowUp fact.factId reason).Perm
        ((eligible.filter fun fact => !s.hasFollowUp fact.factId reason).filter fun fact =>
          decide (rank MemoryFactRow.byUpdate eligible fact < limit)) := by
      rw [List.filter_filter, List.filter_congr fun _ _ => Bool.and_comm _ _, ← List.filter_filter]
      exact (firstRows_perm hkey).filter _
    have hsame : (((firstRows MemoryFactRow.byUpdate limit eligible).filter fun fact =>
        !s.hasFollowUp fact.factId reason).map make).filter isDue =
        (((firstRows MemoryFactRow.byUpdate limit eligible).filter fun fact =>
          !s.hasFollowUp fact.factId reason).map make).filter inTime := by
      refine List.filter_congr fun item hitem => ?_
      obtain ⟨fact, hfact, rfl⟩ := List.mem_map.mp hitem
      exact hdue fact (mem_of_mem_firstRows (List.mem_filter.mp hfact).1)
    rw [hsame]
    exact (hnew.map make).filter _

/-- The items of another reason that are not due for this one do not appear on its desk. -/
theorem followUpDesk_insert (hfr : NeverRepeats uuid old) (h : Named uuid old s)
    {other : ReasonCode} (hoth : other ≠ reason) {window : List MemoryFactRow}
    (hmake : ∀ fact, (make fact).followUpId = uuid k (.followUp fact.factId reason) ∧
      (make fact).sourceMemoryFactId = fact.factId ∧ (make fact).reasonCode = reason)
    (hwdw : window.Pairwise fun a b => a.factId ≠ b.factId)
    (hdue : ∀ fact ∈ window, isDue (make fact) = false) :
    followUpDesk eligible other isDue { s with
      followUps := insertIgnore FollowUpItem.conflicts s.followUps (window.map make) } =
      followUpDesk eligible other isDue s := by
  have hins := insert_followUps hfr h hmake hwdw
  rw [followUpDesk, followUpDesk, Desk.mk.injEq]
  refine ⟨rfl, funext fun fact => ?_, ?_, rfl⟩
  · rw [Store.hasFollowUp]
    dsimp only
    rw [hins, List.any_append, ← Store.hasFollowUp]
    have hnone : (((window.filter fun fact => !s.hasFollowUp fact.factId reason).map make).any
        fun item => decide (item.sourceMemoryFactId = fact.factId) &&
          decide (item.reasonCode = other)) = false := by
      rw [List.any_eq_false]
      intro item hitem
      obtain ⟨source, -, rfl⟩ := List.mem_map.mp hitem
      simp [(hmake source).2.2, hoth.symm]
    rw [hnone, Bool.or_false]
  · dsimp only
    rw [hins, List.filter_append]
    have hnone : ((window.filter fun fact => !s.hasFollowUp fact.factId reason).map make).filter
        isDue = [] := by
      rw [List.filter_eq_nil_iff]
      intro item hitem
      obtain ⟨fact, hfact, rfl⟩ := List.mem_map.mp hitem
      rw [hdue fact (List.mem_filter.mp hfact).1]
      exact Bool.false_ne_true
    rw [hnone, List.append_nil]

end Materialize

theorem commitmentItem_keys :
    (commitmentItem (uuid k) clock fact).followUpId =
        uuid k (.followUp fact.factId .commitmentDue) ∧
      (commitmentItem (uuid k) clock fact).sourceMemoryFactId = fact.factId ∧
      (commitmentItem (uuid k) clock fact).reasonCode = .commitmentDue :=
  ⟨rfl, rfl, rfl⟩

theorem blockerItem_keys :
    (blockerItem (uuid k) clock escalation fact).followUpId =
        uuid k (.followUp fact.factId .projectBlocked) ∧
      (blockerItem (uuid k) clock escalation fact).sourceMemoryFactId = fact.factId ∧
      (blockerItem (uuid k) clock escalation fact).reasonCode = .projectBlocked :=
  ⟨rfl, rfl, rfl⟩

theorem eligibleCommitments_sublist : (s.eligibleCommitments horizon).Sublist s.facts :=
  List.filter_sublist

theorem eligibleProjects_sublist : (s.eligibleProjects escalation horizon).Sublist s.facts :=
  List.filter_sublist

theorem mem_eligibleCommitments (h : fact ∈ s.eligibleCommitments horizon) :
    fact ∈ s.facts ∧ s.standing FactPayload.isPendingCommitment fact = true := by
  obtain ⟨hfact, hcond⟩ := List.mem_filter.mp h
  rw [Bool.and_eq_true] at hcond
  exact ⟨hfact, hcond.1⟩

theorem mem_eligibleProjects (h : fact ∈ s.eligibleProjects escalation horizon) :
    fact ∈ s.facts ∧ s.standing FactPayload.isBlockedProject fact = true := by
  obtain ⟨hfact, hcond⟩ := List.mem_filter.mp h
  rw [Bool.and_eq_true] at hcond
  exact ⟨hfact, hcond.1⟩

/-- An item that is scheduled for a time that has come. -/
def FollowUpItem.inTime (now : Int) (item : FollowUpItem) : Bool := decide (item.dueAtUnixSecs ≤ now)

theorem materialises_commitments (hfr : NeverRepeats uuid old) (h : Named uuid old s) :
    Materialises limit MemoryFactRow.byUpdate (commitmentItem (uuid k) clock)
      (FollowUpItem.inTime params.nowUnixSecs) (commitmentDesk params s)
      (commitmentDesk params
        (s.materializeCommitments (uuid k) clock params.horizon limit)) := by
  refine materialises_followUps hfr h (fun _ => commitmentItem_keys)
    ((eligibleCommitments_sublist.map MemoryFactRow.factId).nodup h.keyed.factIds) fun fact hfact => ?_
  obtain ⟨hmem, hstand⟩ := mem_eligibleCommitments hfact
  have hof : s.ofFact (s.standing FactPayload.isPendingCommitment)
      (commitmentItem (uuid k) clock fact) = true :=
    Store.ofFact_iff.mpr ⟨fact, hmem, rfl, hstand⟩
  rw [Store.isDueCommitment, hof, Bool.and_true]
  rfl

theorem materialises_projects (hfr : NeverRepeats uuid old) (h : Named uuid old s) :
    Materialises limit MemoryFactRow.byUpdate
      (blockerItem (uuid k) clock params.blockerEscalationSecs) (FollowUpItem.inTime params.nowUnixSecs)
      (projectDesk params s) (projectDesk params
        (s.materializeBlockers (uuid k) clock params.blockerEscalationSecs params.horizon limit)) := by
  refine materialises_followUps hfr h (fun _ => blockerItem_keys)
    ((eligibleProjects_sublist.map MemoryFactRow.factId).nodup h.keyed.factIds) fun fact hfact => ?_
  obtain ⟨hmem, hstand⟩ := mem_eligibleProjects hfact
  have hof : s.ofFact (s.standing FactPayload.isBlockedProject)
      (blockerItem (uuid k) clock params.blockerEscalationSecs fact) = true :=
    Store.ofFact_iff.mpr ⟨fact, hmem, rfl, hstand⟩
  rw [Store.isDueProject, hof, Bool.and_true]
  rfl

/-- The scan of commitments makes nothing that the desk of projects sees. -/
theorem projectDesk_materialize (hfr : NeverRepeats uuid old) (h : Named uuid old s) :
    projectDesk params (s.materializeCommitments (uuid k) clock params.horizon limit) =
      projectDesk params s := by
  refine followUpDesk_insert hfr h ReasonCode.noConfusion
    (fun _ => commitmentItem_keys)
    (window_pairwise _ ((eligibleCommitments_sublist.map _).nodup h.keyed.factIds))
    fun fact _ => ?_
  simp [Store.isDueProject, commitmentItem]

/-- And the scan of projects nothing that the desk of commitments sees. -/
theorem commitmentDesk_materialize (hfr : NeverRepeats uuid old) (h : Named uuid old s) :
    commitmentDesk params
        (s.materializeBlockers (uuid k) clock params.blockerEscalationSecs params.horizon limit) =
      commitmentDesk params s := by
  refine followUpDesk_insert hfr h ReasonCode.noConfusion
    (fun _ => blockerItem_keys)
    (window_pairwise _ ((eligibleProjects_sublist.map _).nodup h.keyed.factIds))
    fun fact hfact => ?_
  obtain ⟨hmem, hstand⟩ := mem_eligibleProjects (mem_of_mem_firstRows hfact)
  have hof : s.ofFact (s.standing FactPayload.isBlockedProject)
      (blockerItem (uuid k) clock params.blockerEscalationSecs fact) = true :=
    Store.ofFact_iff.mpr ⟨fact, hmem, rfl, hstand⟩
  rw [Bool.eq_false_iff]
  intro hdue
  rw [Store.isDueCommitment, Bool.and_eq_true] at hdue
  obtain ⟨other, -, hpend, hblocked⟩ := h.keyed.ofFact_and hdue.2 hof
  have hnot := (FactPayload.pending_exclusive (Store.standing_iff.mp hpend).2.2).2.2
  rw [(Store.standing_iff.mp hblocked).2.2] at hnot
  exact Bool.noConfusion hnot

/-! ## Expectations -/

theorem overdue_questionId {timeout : Int} {question : OpenQuestion} {row : OverdueQuestion}
    (h : s.overdue timeout horizon question = some row) : row.questionId = question.questionId := by
  rw [Store.overdue] at h
  split at h
  · exact absurd h (by simp)
  · simp only [Option.bind_eq_bind, Option.bind_eq_some_iff] at h
    obtain ⟨thread, -, h⟩ := h
    split at h
    · exact absurd h (by simp)
    · obtain ⟨first, -, h⟩ := Option.bind_eq_some_iff.mp h
      rw [← Option.some.inj h]

theorem eligibleQuestionIds (h : s.Keyed) (timeout horizon : Int) :
    ((s.eligibleQuestions timeout horizon).map OverdueQuestion.questionId).Nodup := by
  refine List.pairwise_map.mpr (h.questions.filterMap _ fun a b hab row hrow row' hrow' => ?_)
  rwa [overdue_questionId hrow, overdue_questionId hrow']

theorem OverdueQuestion.byOccurrence_nodup {eligible : List OverdueQuestion}
    (h : (eligible.map OverdueQuestion.questionId).Nodup) :
    (eligible.map OverdueQuestion.byOccurrence).Nodup := by
  refine List.pairwise_map.mpr ((List.pairwise_map.mp h).imp fun {a b} hab heq => hab ?_)
  exact congrArg (fun key => (ofLex key).2) heq

theorem questions_pairwise {eligible : List OverdueQuestion} (limit : Nat)
    (h : (eligible.map OverdueQuestion.questionId).Nodup) :
    (firstRows OverdueQuestion.byOccurrence limit eligible).Pairwise
      fun a b => a.questionId ≠ b.questionId := by
  have hwdw : (firstRows OverdueQuestion.byOccurrence limit eligible).Subperm eligible :=
    firstRows_subperm
  obtain ⟨rows, hrows, hsub⟩ := hwdw
  exact List.pairwise_map.mp (((hrows.map OverdueQuestion.questionId).nodup_iff).mp
    ((hsub.map OverdueQuestion.questionId).nodup h))

def ResponseExpectation.inTime (now : Int) (row : ResponseExpectation) : Bool :=
  decide (row.dueAtUnixSecs ≤ now)

theorem settles_resolve (h : s.Keyed) :
    Settles s.isSettled (expectationDesk params s)
      (expectationDesk params (s.resolveExpectations clock limit)) := by
  have hfin (row : ResponseExpectation) :
      (row.finish clock .resolved).expectationStatus ≠ .active := ExpectationStatus.noConfusion
  refine { eligible := .refl _, made := ?_, due := ?_, served := fun _ h => h,
           eligible_eq := rfl, due_eq := ?_ }
  · exact funext fun question => any_updateWhere fun _ => rfl
  · exact filter_updateWhere_sublist fun row _ => by simp [hfin row]
  · change ((updateFirst _ _ _ _ _).filter _).filter _ = (s.expectations.filter _).filter _
    rw [List.filter_filter, List.filter_filter]
    refine filter_updateWhere_eq (fun row _ => by simp [hfin row]) fun row hrow hchos => ?_
    have hcond := chosen_cond h.expectationIds hrow hchos
    rw [Bool.and_eq_true] at hcond
    simp [hcond.2]

theorem materialises_expectations (hfr : NeverRepeats uuid old) (h : Named uuid old s) :
    Materialises limit OverdueQuestion.byOccurrence
      (responseExpectation (uuid k) clock params.responseTimeoutSecs)
      (ResponseExpectation.inTime params.nowUnixSecs) (expectationDesk params s)
      (expectationDesk params (s.materializeExpectations (uuid k) clock params.responseTimeoutSecs
        params.horizon limit)) := by
  have helig := eligibleQuestionIds h.keyed params.responseTimeoutSecs params.horizon
  have hins := insert_expectations (k := k) hfr h clock params.responseTimeoutSecs
    (questions_pairwise limit helig)
  have hkey := OverdueQuestion.byOccurrence_nodup helig
  refine ⟨rfl, fun question hqn => ?_, ?_, fun _ h => h⟩
  · change Store.hasExpectation _ question.questionId = true ↔
      s.hasExpectation question.questionId = true ∨ _
    rw [Store.hasExpectation, Store.materializeExpectations]
    dsimp only
    rw [hins, List.any_append, Bool.or_eq_true, ← Store.hasExpectation]
    constructor
    · rintro (hold | hnew)
      · exact .inl hold
      · obtain ⟨row, hrow, hsame⟩ := List.any_eq_true.mp hnew
        obtain ⟨other, hoth, rfl⟩ := List.mem_map.mp hrow
        obtain ⟨hwdw, -⟩ := List.mem_filter.mp hoth
        have heq := eq_of_key_eq helig (mem_of_mem_firstRows hwdw) hqn
          (of_decide_eq_true hsame)
        rw [heq] at hwdw
        exact .inr ((mem_firstRows hkey).mp hwdw).2
    · rintro (hold | hrank)
      · exact .inl hold
      · cases hmade : s.hasExpectation question.questionId with
        | true => exact .inl rfl
        | false =>
          have hwdw := (mem_firstRows hkey).mpr ⟨hqn, hrank⟩
          exact .inr (List.any_eq_true.mpr ⟨_, List.mem_map_of_mem
            (List.mem_filter.mpr ⟨hwdw, by rw [hmade]; rfl⟩), decide_eq_true rfl⟩)
  · change (List.filter _ (insertIgnore _ _ _)).Perm
      (s.dueExpectations params.nowUnixSecs ++ _)
    rw [hins, List.filter_append]
    refine List.Perm.append_left _ ?_
    have hnew : ((firstRows OverdueQuestion.byOccurrence limit (s.eligibleQuestions
        params.responseTimeoutSecs params.horizon)).filter fun question =>
          !s.hasExpectation question.questionId).Perm
        (((s.eligibleQuestions params.responseTimeoutSecs params.horizon).filter fun question =>
          !s.hasExpectation question.questionId).filter fun question =>
            decide (rank OverdueQuestion.byOccurrence (s.eligibleQuestions
              params.responseTimeoutSecs params.horizon) question < limit)) := by
      rw [List.filter_filter, List.filter_congr fun _ _ => Bool.and_comm _ _, ← List.filter_filter]
      exact (firstRows_perm hkey).filter _
    refine .trans (.of_eq (List.filter_congr fun row hrow => ?_)) ((hnew.map _).filter _)
    obtain ⟨question, -, rfl⟩ := List.mem_map.mp hrow
    exact Bool.true_and _

/-! ## Production -/

theorem FollowUpItem.source_inj {a b : FollowUpItem} (h : a.source = b.source) :
    a.followUpId = b.followUpId :=
  (CandidateSource.mk.inj h).2.2.1

theorem ResponseExpectation.source_inj {a b : ResponseExpectation} (h : a.source = b.source) :
    a.expectationId = b.expectationId :=
  (CandidateSource.mk.inj h).2.2.1

theorem source_ne : item.source ≠ row.source :=
  fun h => SourceKind.noConfusion (CandidateSource.mk.inj h).2.1

theorem FollowUpItem.byDue_nodup (h : s.Keyed) {isDue : FollowUpItem → Bool} :
    ((s.followUps.filter isDue).map FollowUpItem.byDue).Nodup := by
  refine List.pairwise_map.mpr ((List.pairwise_map.mp
    ((List.filter_sublist.map _).nodup h.followUpIds)).imp fun {a b} hab heq => hab ?_)
  exact congrArg (fun key => (ofLex key).2) heq

theorem ResponseExpectation.byDue_nodup (h : s.Keyed) {isDue : ResponseExpectation → Bool} :
    ((s.expectations.filter isDue).map ResponseExpectation.byDue).Nodup := by
  refine List.pairwise_map.mpr ((List.pairwise_map.mp
    ((List.filter_sublist.map _).nodup h.expectationIds)).imp fun {a b} hab heq => hab ?_)
  exact congrArg (fun key => (ofLex key).2) heq

/-- A desk with new candidates serves the rows they were made for. -/
theorem serves_followUps (eligible : List MemoryFactRow) (reason : ReasonCode)
    {isDue : FollowUpItem → Bool} (hkeyed : s.Keyed)
    (h : Produced ((firstRows FollowUpItem.byDue limit (s.followUps.filter isDue)).map
      FollowUpItem.source) s t) :
    Serves limit FollowUpItem.byDue (followUpDesk eligible reason isDue s)
      (followUpDesk eligible reason isDue t) := by
  obtain ⟨candidates, requests, rfl⟩ := h.rest
  refine ⟨rfl, rfl, rfl, fun item hitem => (h.candidates item.source).mpr ?_⟩
  exact hitem.imp id fun hwdw =>
    List.mem_map_of_mem ((mem_firstRows (FollowUpItem.byDue_nodup hkeyed)).mpr hwdw)

theorem serves_commitments (hkeyed : s.Keyed)
    (h : Produced ((firstRows FollowUpItem.byDue limit (s.dueCommitments params.nowUnixSecs)).map
      FollowUpItem.source) s t) :
    Serves limit FollowUpItem.byDue (commitmentDesk params s) (commitmentDesk params t) := by
  have hserv := serves_followUps (s.eligibleCommitments params.horizon) .commitmentDue hkeyed h
  obtain ⟨candidates, requests, rfl⟩ := h.rest
  exact hserv

theorem serves_projects (hkeyed : s.Keyed)
    (h : Produced ((firstRows FollowUpItem.byDue limit (s.dueProjects params.nowUnixSecs)).map
      FollowUpItem.source) s t) :
    Serves limit FollowUpItem.byDue (projectDesk params s) (projectDesk params t) := by
  have hserv := serves_followUps (s.eligibleProjects params.blockerEscalationSecs params.horizon)
    .projectBlocked hkeyed h
  obtain ⟨candidates, requests, rfl⟩ := h.rest
  exact hserv

theorem serves_expectations (hkeyed : s.Keyed)
    (h : Produced ((firstRows ResponseExpectation.byDue limit
      (s.dueExpectations params.nowUnixSecs)).map ResponseExpectation.source) s t) :
    Serves limit ResponseExpectation.byDue (expectationDesk params s) (expectationDesk params t) := by
  obtain ⟨candidates, requests, rfl⟩ := h.rest
  refine ⟨rfl, rfl, rfl, fun row hrow => (h.candidates row.source).mpr ?_⟩
  exact hrow.imp id fun hwdw =>
    List.mem_map_of_mem ((mem_firstRows (ResponseExpectation.byDue_nodup hkeyed)).mpr hwdw)

/-- Candidates of follow-ups are nothing to the desk of expectations. -/
theorem expectationDesk_produced {rows : List FollowUpItem}
    (h : Produced (rows.map FollowUpItem.source) s t) :
    expectationDesk params t = expectationDesk params s := by
  have hsrv (row : ResponseExpectation) : t.hasCandidate row.source = s.hasCandidate row.source := by
    rw [Bool.eq_iff_iff, h.candidates]
    refine or_iff_left fun hmem => ?_
    obtain ⟨item, -, heq⟩ := List.mem_map.mp hmem
    exact source_ne heq
  obtain ⟨candidates, requests, rfl⟩ := h.rest
  rw [expectationDesk, expectationDesk, Desk.mk.injEq]
  exact ⟨rfl, rfl, rfl, funext hsrv⟩

/-- Candidates of expectations are nothing to the desks of follow-ups. -/
theorem followUpDesk_produced (eligible : List MemoryFactRow) (reason : ReasonCode)
    (isDue : FollowUpItem → Bool) (h : Produced (rows.map ResponseExpectation.source) s t) :
    followUpDesk eligible reason isDue t = followUpDesk eligible reason isDue s := by
  have hsrv (item : FollowUpItem) : t.hasCandidate item.source = s.hasCandidate item.source := by
    rw [Bool.eq_iff_iff, h.candidates]
    refine or_iff_left fun hmem => ?_
    obtain ⟨row, -, heq⟩ := List.mem_map.mp hmem
    exact source_ne heq.symm
  obtain ⟨candidates, requests, rfl⟩ := h.rest
  rw [followUpDesk, followUpDesk, Desk.mk.injEq]
  exact ⟨rfl, rfl, rfl, funext hsrv⟩

theorem desks_produced (h : Produced (rows.map ResponseExpectation.source) s t) :
    commitmentDesk params t = commitmentDesk params s ∧
      projectDesk params t = projectDesk params s := by
  have hcom := followUpDesk_produced (s.eligibleCommitments params.horizon) .commitmentDue
    (s.isDueCommitment params.nowUnixSecs) h
  have hproj := followUpDesk_produced
    (s.eligibleProjects params.blockerEscalationSecs params.horizon) .projectBlocked
    (s.isDueProject params.nowUnixSecs) h
  obtain ⟨candidates, requests, rfl⟩ := h.rest
  exact ⟨hcom, hproj⟩

/-- A row that is served afterwards was so before, or its candidate was just made. -/
theorem Produced.followUp {rows : List FollowUpItem}
    (h : Produced (rows.map FollowUpItem.source) s t) (hitem : t.hasCandidate item.source = true) :
    s.hasCandidate item.source = true ∨ ∃ row ∈ rows, row.followUpId = item.followUpId := by
  refine ((h.candidates item.source).mp hitem).imp id fun hmem => ?_
  obtain ⟨row, hrow, heq⟩ := List.mem_map.mp hmem
  exact ⟨row, hrow, FollowUpItem.source_inj heq⟩

theorem Produced.expectation (h : Produced (rows.map ResponseExpectation.source) s t)
    (hrow : t.hasCandidate row.source = true) : s.hasCandidate row.source = true ∨
      ∃ other ∈ rows, other.expectationId = row.expectationId := by
  refine ((h.candidates row.source).mp hrow).imp id fun hmem => ?_
  obtain ⟨other, hoth, heq⟩ := List.mem_map.mp hmem
  exact ⟨other, hoth, ResponseExpectation.source_inj heq⟩

end ServerRS.FollowUp

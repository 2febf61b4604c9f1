import Mathlib.Data.Nat.Pairing
import ServerRS.FollowUp.Rounds

/-!
# Starvation

A row that has its item, or an item that has its candidate, stays in the window of its statement,
since no statement leaves out what is done. `noStarvation_iff`: everything is reached, whatever
the Owner does, exactly when each row that waits has fewer than `limit` rows before it, finished
ones among them.
-/

namespace ServerRS.FollowUp

open Lib Lib.BoundedScan

variable {uuid : Nat → Purpose → Uuid} {old : List Uuid} {params : ScanParams} {s b c t : Store}
  {k clock : Nat}

/-! ## What a round does to each desk -/

theorem isDueCommitment_congr (h : s.facts = t.facts) {now : Int} :
    s.isDueCommitment now = t.isDueCommitment now := by
  cases s
  cases t
  cases h
  rfl

theorem isDueProject_congr (h : s.facts = t.facts) {now : Int} :
    s.isDueProject now = t.isDueProject now := by
  cases s
  cases t
  cases h
  rfl

theorem settles_produced {sources : List CandidateSource} {stale : FollowUpItem → Bool}
    (h : Produced sources s t) :
    Settles stale (commitmentDesk params s) (commitmentDesk params t) ∧
      Settles stale (projectDesk params s) (projectDesk params t) := by
  have hsrv (item : FollowUpItem) (hitem : s.hasCandidate item.source = true) :
      t.hasCandidate item.source = true :=
    (h.candidates item.source).mpr (.inl hitem)
  obtain ⟨candidates, requests, rfl⟩ := h.rest
  exact ⟨⟨⟨.refl _, rfl, .refl _, hsrv⟩, rfl, rfl⟩, ⟨⟨.refl _, rfl, .refl _, hsrv⟩, rfl, rfl⟩⟩

theorem Named.settled (h : Named uuid old s) (clock limit : Nat) :
    Named uuid old (s.supersede clock limit) ∧
      Named uuid old ((s.supersede clock limit).complete clock limit) :=
  ⟨h.updateFollowUps FollowUpItem.finish_keepsKeys,
    (h.updateFollowUps FollowUpItem.finish_keepsKeys).updateFollowUps FollowUpItem.finish_keepsKeys⟩

theorem desks_readCommitments (h : Named uuid old s) :
    commitmentDesk params ((s.supersede clock params.limit).complete clock params.limit) =
        commitmentDesk params s ∧
      projectDesk params ((s.supersede clock params.limit).complete clock params.limit) =
        projectDesk params s := by
  obtain ⟨hcom, hproj⟩ := desks_complete (h.settled clock params.limit).1.keyed
  obtain ⟨hcom', hproj'⟩ := desks_supersede h.keyed
  exact ⟨hcom.trans hcom', hproj.trans hproj'⟩

namespace Stages

variable (hfr : NeverRepeats uuid old) (h : Stages uuid old params k clock s b c t)
include hfr h

theorem materialises_commitments : Materialises params.limit MemoryFactRow.byUpdate
    (commitmentItem (uuid k) clock) (FollowUpItem.inTime params.nowUnixSecs) (commitmentDesk params s)
    (commitmentDesk params (s.readCommitments (uuid k) clock params)) := by
  rw [← (desks_readCommitments h.named).1]
  exact FollowUp.materialises_commitments hfr (h.named.settled clock params.limit).2

omit hfr in
theorem serves_commitments : Serves params.limit FollowUpItem.byDue
    (commitmentDesk params (s.readCommitments (uuid k) clock params)) (commitmentDesk params b) :=
  FollowUp.serves_commitments h.named.readCommitments.keyed h.commitments

theorem settles_commitments (stale : FollowUpItem → Bool) :
    Settles stale (commitmentDesk params b) (commitmentDesk params t) := by
  have hc : commitmentDesk params c = commitmentDesk params b := (desks_produced h.expectations).1
  have hread : commitmentDesk params (c.readProjects (uuid k) clock params) =
      commitmentDesk params b := (commitmentDesk_materialize hfr h.named_c).trans hc
  rw [← hread]
  exact (settles_produced h.projects).1

theorem settles_projects (stale : FollowUpItem → Bool) :
    Settles stale (projectDesk params s) (projectDesk params c) := by
  have hread : projectDesk params (s.readCommitments (uuid k) clock params) = projectDesk params s :=
    (projectDesk_materialize hfr (h.named.settled clock params.limit).2).trans
      (desks_readCommitments h.named).2
  have hc : projectDesk params c = projectDesk params b := (desks_produced h.expectations).2
  rw [hc, ← hread]
  exact (settles_produced h.commitments).2

theorem materialises_projects : Materialises params.limit MemoryFactRow.byUpdate
    (blockerItem (uuid k) clock params.blockerEscalationSecs)
    (FollowUpItem.inTime params.nowUnixSecs) (projectDesk params c)
    (projectDesk params (c.readProjects (uuid k) clock params)) :=
  FollowUp.materialises_projects hfr h.named_c

omit hfr in
theorem serves_projects : Serves params.limit FollowUpItem.byDue
    (projectDesk params (c.readProjects (uuid k) clock params)) (projectDesk params t) :=
  FollowUp.serves_projects h.named_c.readProjects.keyed h.projects

omit hfr in
theorem expectationDesk_b : expectationDesk params b = expectationDesk params s := by
  rw [expectationDesk_produced h.commitments]
  rfl

omit hfr in
theorem settles_expectations : Settles s.isSettled (expectationDesk params s)
    (expectationDesk params (b.resolveExpectations clock params.limit)) := by
  have hset : b.isSettled = s.isSettled := by
    obtain ⟨_, _, hb⟩ := h.commitments.rest
    rw [hb]
    rfl
  rw [← h.expectationDesk_b, ← hset]
  exact settles_resolve h.named_b.keyed

theorem materialises_expectations : Materialises params.limit OverdueQuestion.byOccurrence
    (responseExpectation (uuid k) clock params.responseTimeoutSecs)
    (ResponseExpectation.inTime params.nowUnixSecs)
    (expectationDesk params (b.resolveExpectations clock params.limit))
    (expectationDesk params (b.readExpectations (uuid k) clock params)) :=
  FollowUp.materialises_expectations hfr
    (h.named_b.updateExpectations ResponseExpectation.finish_keepsKeys)

omit hfr in
theorem serves_expectations : Serves params.limit ResponseExpectation.byDue
    (expectationDesk params (b.readExpectations (uuid k) clock params)) (expectationDesk params c) :=
  FollowUp.serves_expectations h.named_b.readExpectations.keyed h.expectations

omit hfr in
theorem expectationDesk_t : expectationDesk params t = expectationDesk params c := by
  rw [expectationDesk_produced h.projects]
  rfl

omit hfr in
theorem conversationPart : t.conversationPart = s.conversationPart := by
  obtain ⟨_, _, hb⟩ := h.commitments.rest
  obtain ⟨_, _, hc⟩ := h.expectations.rest
  obtain ⟨_, _, ht⟩ := h.projects.rest
  rw [ht, Store.conversationPart, Store.readProjects, Store.materializeBlockers, hc,
    Store.readExpectations, Store.materializeExpectations, Store.resolveExpectations, hb]
  rfl

/-! Rows of the store that a scan read are rows of the store that the round leaves. -/

omit hfr in
theorem facts_eq : (s.readCommitments (uuid k) clock params).facts = t.facts ∧
    (c.readProjects (uuid k) clock params).facts = t.facts := by
  obtain ⟨_, _, hb⟩ := h.commitments.rest
  obtain ⟨_, _, hc⟩ := h.expectations.rest
  obtain ⟨_, _, ht⟩ := h.projects.rest
  rw [ht]
  refine ⟨?_, rfl⟩
  rw [Store.readProjects, Store.materializeBlockers, hc, Store.readExpectations,
    Store.materializeExpectations, Store.resolveExpectations, hb]

omit hfr in
theorem projects_subset : (c.readProjects (uuid k) clock params).followUps ⊆ t.followUps := by
  obtain ⟨_, _, ht⟩ := h.projects.rest
  rw [ht]
  exact List.Subset.refl _

omit hfr in
theorem commitments_subset : (s.readCommitments (uuid k) clock params).followUps ⊆
    (c.readProjects (uuid k) clock params).followUps := by
  obtain ⟨_, _, hb⟩ := h.commitments.rest
  obtain ⟨_, _, hc⟩ := h.expectations.rest
  have hfollowUps : c.followUps = (s.readCommitments (uuid k) clock params).followUps := by
    rw [hc, Store.readExpectations, Store.materializeExpectations, Store.resolveExpectations, hb]
  rw [← hfollowUps]
  exact subset_insertIgnore

omit hfr in
theorem expectations_eq : (b.readExpectations (uuid k) clock params).expectations = t.expectations := by
  obtain ⟨_, _, hc⟩ := h.expectations.rest
  obtain ⟨_, _, ht⟩ := h.projects.rest
  rw [ht, Store.readProjects, Store.materializeBlockers, hc]

variable {item : FollowUpItem} {row : ResponseExpectation}

omit hfr in
/-- A commitment that is served at the end was so before, or it was in its window. -/
theorem window_commitments (hdue : item ∈ (commitmentDesk params t).due)
    (hsrv : (commitmentDesk params t).served item = true) :
    (commitmentDesk params (s.readCommitments (uuid k) clock params)).served item = true ∨
      rank FollowUpItem.byDue
        (commitmentDesk params (s.readCommitments (uuid k) clock params)).due item < params.limit := by
  obtain ⟨hitem, hisDue⟩ := List.mem_filter.mp hdue
  rcases h.projects.followUp hsrv with hlast | ⟨row, hrow, hid⟩
  · have hlast : (commitmentDesk params c).served item = true := hlast
    rw [(desks_produced h.expectations).1] at hlast
    refine (h.commitments.followUp hlast).imp id ?_
    rintro ⟨row, hrow, hid⟩
    have hmem := (List.mem_filter.mp (mem_of_mem_firstRows hrow)).1
    have heq : row = item := eq_of_key_eq h.named_t.keyed.followUpIds
      (h.projects_subset (h.commitments_subset hmem)) hitem hid
    rw [heq] at hrow
    exact ((mem_firstRows (FollowUpItem.byDue_nodup h.named.readCommitments.keyed)).mp hrow).2
  · -- The last scan makes candidates for items of projects only.
    obtain ⟨hmem, hproj⟩ := Store.mem_dueProjects.mp (mem_of_mem_firstRows hrow)
    have heq : row = item := eq_of_key_eq h.named_t.keyed.followUpIds (h.projects_subset hmem) hitem hid
    rw [heq, isDueProject_congr h.facts_eq.2] at hproj
    rw [h.named_t.keyed.not_due_twice hisDue] at hproj
    exact Bool.noConfusion hproj

omit hfr in
theorem window_projects (hdue : item ∈ (projectDesk params t).due)
    (hsrv : (projectDesk params t).served item = true) :
    (projectDesk params (c.readProjects (uuid k) clock params)).served item = true ∨
      rank FollowUpItem.byDue
        (projectDesk params (c.readProjects (uuid k) clock params)).due item < params.limit := by
  refine (h.projects.followUp hsrv).imp id ?_
  rintro ⟨row, hrow, hid⟩
  have hmem := (List.mem_filter.mp (mem_of_mem_firstRows hrow)).1
  have heq : row = item := eq_of_key_eq h.named_t.keyed.followUpIds (h.projects_subset hmem)
    (List.mem_filter.mp hdue).1 hid
  rw [heq] at hrow
  exact ((mem_firstRows (FollowUpItem.byDue_nodup h.named_c.readProjects.keyed)).mp hrow).2

omit hfr in
/-- The first scan makes candidates for items of commitments only. -/
theorem unserved_projects
    (hdue : item ∈ (projectDesk params (c.readProjects (uuid k) clock params)).due)
    (hsrv : (projectDesk params (c.readProjects (uuid k) clock params)).served item = true) :
    (projectDesk params s).served item = true := by
  obtain ⟨hitem, hisDue⟩ := Store.mem_dueProjects.mp hdue
  have hlast : (projectDesk params c).served item = true := hsrv
  rw [(desks_produced h.expectations).2] at hlast
  rcases h.commitments.followUp hlast with hold | ⟨row, hrow, hid⟩
  · exact hold
  · obtain ⟨hmem, hcom⟩ := Store.mem_dueCommitments.mp (mem_of_mem_firstRows hrow)
    have heq : row = item :=
      eq_of_key_eq h.named_c.readProjects.keyed.followUpIds (h.commitments_subset hmem) hitem hid
    have hfacts := h.facts_eq.1.trans h.facts_eq.2.symm
    rw [heq] at hcom
    rw [isDueCommitment_congr hfacts] at hcom
    rw [h.named_c.readProjects.keyed.not_due_twice hcom] at hisDue
    exact Bool.noConfusion hisDue

omit hfr in
theorem window_expectations (hdue : row ∈ (expectationDesk params t).due)
    (hsrv : (expectationDesk params t).served row = true) :
    (expectationDesk params (b.readExpectations (uuid k) clock params)).served row = true ∨
      rank ResponseExpectation.byDue (expectationDesk params
        (b.readExpectations (uuid k) clock params)).due row < params.limit := by
  rw [h.expectationDesk_t] at hsrv
  refine (h.expectations.expectation hsrv).imp id ?_
  rintro ⟨other, hoth, hid⟩
  have hmem := (List.mem_filter.mp (mem_of_mem_firstRows hoth)).1
  rw [h.expectations_eq] at hmem
  have heq : other = row :=
    eq_of_key_eq h.named_t.keyed.expectationIds hmem (List.mem_filter.mp hdue).1 hid
  rw [heq] at hoth
  exact ((mem_firstRows (ResponseExpectation.byDue_nodup h.named_b.readExpectations.keyed)).mp
    hoth).2

omit hfr in
theorem unserved_expectations
    (hsrv : (expectationDesk params (b.readExpectations (uuid k) clock params)).served row = true) :
    (expectationDesk params s).served row = true := by
  rw [← h.expectationDesk_b]
  exact hsrv

end Stages

/-! ## Settled expectations -/

theorem backlog_resolve (hlim : 1 ≤ params.limit) (h : 0 < s.backlog) :
    (s.resolveExpectations clock params.limit).backlog < s.backlog := by
  obtain ⟨row, hrow, hcond⟩ := List.countP_pos_iff.mp h
  have hwaits : row ∈ s.expectations.filter fun row =>
      decide (row.expectationStatus = .active) && s.isSettled row :=
    List.mem_filter.mpr ⟨hrow, hcond⟩
  obtain ⟨first, hfst⟩ : ∃ first, first ∈ firstRows ResponseExpectation.byUpdate params.limit _ :=
    exists_mem_firstRows hlim hwaits
  obtain ⟨hmem, hfirstCond⟩ := List.mem_filter.mp (mem_of_mem_firstRows hfst)
  have hfin (row : ResponseExpectation) :
      (row.finish clock .resolved).expectationStatus ≠ .active := ExpectationStatus.noConfusion
  refine countP_updateWhere_lt (fun row _ => by simp [hfin row]) ⟨first, hmem, ?_, hfirstCond⟩
  exact List.contains_iff_mem.mpr (List.mem_map_of_mem hfst)

theorem backlog_resolve_le :
    (s.resolveExpectations clock params.limit).backlog ≤ s.backlog := by
  have hfin (row : ResponseExpectation) :
      (row.finish clock .resolved).expectationStatus ≠ .active := ExpectationStatus.noConfusion
  rw [Store.backlog, Store.backlog, List.countP_eq_length_filter, List.countP_eq_length_filter]
  exact (filter_updateWhere_sublist fun row _ => by simp [hfin row]).length_le

theorem materializeExpectations_eq (hfr : NeverRepeats uuid old) (h : Named uuid old s)
    (hmade : ∀ question ∈ s.eligibleQuestions params.responseTimeoutSecs params.horizon,
      s.hasExpectation question.questionId = true) :
    s.materializeExpectations (uuid k) clock params.responseTimeoutSecs params.horizon
      params.limit = s := by
  have hins := insert_expectations (k := k) hfr h clock params.responseTimeoutSecs
    (questions_pairwise params.limit
      (eligibleQuestionIds h.keyed params.responseTimeoutSecs params.horizon))
  have hnone : ((firstRows OverdueQuestion.byOccurrence params.limit (s.eligibleQuestions
      params.responseTimeoutSecs params.horizon)).filter fun question =>
        !s.hasExpectation question.questionId) = [] := by
    rw [List.filter_eq_nil_iff]
    intro question hqn
    rw [hmade question (mem_of_mem_firstRows hqn)]
    exact Bool.false_ne_true
  rw [hnone, List.map_nil, List.append_nil] at hins
  rw [Store.materializeExpectations, hins]

theorem stale_of_backlog (h : s.backlog = 0) :
    ∀ row ∈ s.dueExpectations params.nowUnixSecs, s.isSettled row = false := by
  intro row hrow
  obtain ⟨hmem, hdue⟩ := List.mem_filter.mp hrow
  rw [Bool.and_eq_true] at hdue
  rw [Bool.eq_false_iff]
  intro hset
  exact List.countP_eq_zero.mp h row hmem (by rw [hdue.1, hset]; rfl)

/-! ## The runs of the desks -/

/-- The store that a round starts from. -/
def World.before (params : ScanParams) (world : World) (s : Store) (k : Nat) : Store :=
  applyControls (world.clock k) params.nowUnixSecs (world.owner k) (run params world s k)

def World.idle (world : World) : World := { world with owner := fun _ => [] }

section Runs

variable {world : World} {mid last : Nat → Store}

/-- A run passes through its stages. -/
structure RunStages (params : ScanParams) (world : World) (s : Store) (mid last : Nat → Store) :
    Prop where
  fresh : NeverRepeats world.uuid s.uuids
  valid : params.Valid
  named : ∀ k, Named world.uuid s.uuids (run params world s k)
  withdrawn : ∀ k, Withdrawn world.uuid s.uuids params (run params world s k)
    (world.before params s k)
  stages : ∀ k, Stages world.uuid s.uuids params k (world.clock k) (world.before params s k) (mid k)
    (last k) (run params world s (k + 1))

theorem exists_runStages (world : World) (hval : params.Valid) (hkeyed : s.Keyed)
    (hfr : NeverRepeats world.uuid s.uuids) : ∃ mid last, RunStages params world s mid last := by
  have hbef (k : Nat) (h : Named world.uuid s.uuids (run params world s k)) :
      Withdrawn world.uuid s.uuids params (run params world s k) (world.before params s k) :=
    applyControls_withdrawn h (world.owner k)
  have hnamed (k : Nat) : Named world.uuid s.uuids (run params world s k) := by
    induction k with
    | zero => exact named_initial hkeyed
    | succ k ih =>
      obtain ⟨b, c, hstag⟩ := scanAll_stages (k := k) hfr hval (hbef k ih).named
      exact hstag.named_t
  have hstag (k : Nat) : ∃ b c, Stages world.uuid s.uuids params k (world.clock k)
      (world.before params s k) b c (run params world s (k + 1)) :=
    scanAll_stages hfr hval (hbef k (hnamed k)).named
  choose mid last hstag using hstag
  exact ⟨mid, last, hfr, hval, hnamed, fun k => hbef k (hnamed k), hstag⟩

namespace RunStages

variable (h : RunStages params world s mid last)
include h

theorem commitments : Run params.limit MemoryFactRow.byUpdate FollowUpItem.byDue
    (fun k => commitmentItem (world.uuid k) (world.clock k))
    (FollowUpItem.inTime params.nowUnixSecs) (fun k => commitmentDesk params (run params world s k))
    fun k => commitmentDesk params
      ((world.before params s k).readCommitments (world.uuid k) (world.clock k) params) where
  prepares k := ⟨_, (h.withdrawn k).commitments, (h.stages k).materialises_commitments h.fresh⟩
  serves k := ⟨_, (h.stages k).serves_commitments,
    ((h.stages k).settles_commitments h.fresh fun _ => false).toWithdraws⟩

theorem projects : Run params.limit MemoryFactRow.byUpdate FollowUpItem.byDue
    (fun k => blockerItem (world.uuid k) (world.clock k) params.blockerEscalationSecs)
    (FollowUpItem.inTime params.nowUnixSecs) (fun k => projectDesk params (run params world s k))
    fun k => projectDesk params ((last k).readProjects (world.uuid k) (world.clock k) params) where
  prepares k := ⟨_, (h.withdrawn k).projects.trans
    ((h.stages k).settles_projects h.fresh fun _ => false).toWithdraws,
    (h.stages k).materialises_projects h.fresh⟩
  serves k := ⟨_, (h.stages k).serves_projects, .refl⟩

theorem expectations : Run params.limit OverdueQuestion.byOccurrence ResponseExpectation.byDue
    (fun k => responseExpectation (world.uuid k) (world.clock k) params.responseTimeoutSecs)
    (ResponseExpectation.inTime params.nowUnixSecs)
    (fun k => expectationDesk params (run params world s k))
    fun k => expectationDesk params
      ((mid k).readExpectations (world.uuid k) (world.clock k) params) where
  prepares k := ⟨_, (h.withdrawn k).expectations.trans (h.stages k).settles_expectations.toWithdraws,
    (h.stages k).materialises_expectations h.fresh⟩
  serves k := ⟨_, (h.stages k).serves_expectations, (h.stages k).expectationDesk_t ▸ .refl⟩

theorem conversationPart (k : Nat) :
    (run params world s k).conversationPart = s.conversationPart := by
  induction k with
  | zero => rfl
  | succ k ih => exact (h.stages k).conversationPart.trans ((h.withdrawn k).conversations.trans ih)

omit h in
/-- The questions all have their expectations after the first round. -/
theorem readExpectations_eq (h : RunStages params world s mid last)
    (hroom : ∀ question ∈ (expectationDesk params s).eligible,
      (expectationDesk params s).made question = false →
        rank OverdueQuestion.byOccurrence (expectationDesk params s).eligible question < params.limit)
    (k : Nat) :
    (mid (k + 1)).readExpectations (world.uuid (k + 1)) (world.clock (k + 1)) params =
      (mid (k + 1)).resolveExpectations (world.clock (k + 1)) params.limit := by
  have hstag := h.stages (k + 1)
  have hmade := (h.expectations.reads_entries hroom k).2
  have hwith := (h.withdrawn (k + 1)).expectations.trans hstag.settles_expectations.toWithdraws
  refine materializeExpectations_eq h.fresh
    (hstag.named_b.updateExpectations ResponseExpectation.finish_keepsKeys) fun question hmem => ?_
  exact (congrFun hwith.made question).trans (hmade question (hwith.eligible.subset hmem))

theorem backlog_mid (k : Nat) : (mid k).backlog ≤ (run params world s k).backlog := by
  refine le_trans (le_of_eq ?_) (h.withdrawn k).backlog
  obtain ⟨_, _, hmid⟩ := (h.stages k).commitments.rest
  rw [hmid]
  rfl

theorem backlog_last (k : Nat) : (run params world s (k + 1)).backlog =
    ((mid k).readExpectations (world.uuid k) (world.clock k) params).backlog := by
  obtain ⟨_, _, hlast⟩ := (h.stages k).expectations.rest
  obtain ⟨_, _, hrun⟩ := (h.stages k).projects.rest
  have hrun' : (run params world s (k + 1)).backlog = (last k).backlog := by
    rw [hrun]
    rfl
  rw [hrun', hlast]
  rfl

omit h in
/-- From the second round on, a round makes the backlog smaller until there is none. -/
theorem backlog_step (h : RunStages params world s mid last)
    (hroom : ∀ question ∈ (expectationDesk params s).eligible,
      (expectationDesk params s).made question = false →
        rank OverdueQuestion.byOccurrence (expectationDesk params s).eligible question < params.limit)
    (k : Nat) :
    (run params world s (k + 2)).backlog ≤ (run params world s (k + 1)).backlog - 1 := by
  have hmid := h.backlog_mid (k + 1)
  rw [h.backlog_last (k + 1), h.readExpectations_eq hroom k]
  rcases Nat.eq_zero_or_pos (mid (k + 1)).backlog with hzero | hpos
  · have hle : ((mid (k + 1)).resolveExpectations (world.clock (k + 1)) params.limit).backlog ≤
        (mid (k + 1)).backlog := backlog_resolve_le
    rw [hzero] at hle
    exact hle.trans (Nat.zero_le _)
  · have hlt : ((mid (k + 1)).resolveExpectations (world.clock (k + 1)) params.limit).backlog <
        (mid (k + 1)).backlog := backlog_resolve h.valid.limit.1 hpos
    exact Nat.le_sub_one_of_lt (hlt.trans_le hmid)

omit h in
/-- In the end no settled expectation is read. -/
theorem eventually_settled (h : RunStages params world s mid last)
    (hroom : ∀ question ∈ (expectationDesk params s).eligible,
      (expectationDesk params s).made question = false →
        rank OverdueQuestion.byOccurrence (expectationDesk params s).eligible question < params.limit) :
    ∃ N, ∀ k ≥ N, ∀ row ∈ (expectationDesk params ((mid k).readExpectations (world.uuid k)
      (world.clock k) params)).due, s.isSettled row = false := by
  have hbacklog (j : Nat) :
      (run params world s (j + 1)).backlog ≤ (run params world s 1).backlog - j := by
    induction j with
    | zero => exact le_refl _
    | succ j ih =>
      calc (run params world s (j + 1 + 1)).backlog
          ≤ (run params world s (j + 1)).backlog - 1 := h.backlog_step hroom j
        _ ≤ (run params world s 1).backlog - j - 1 := Nat.sub_le_sub_right ih 1
        _ = (run params world s 1).backlog - (j + 1) := Nat.sub_sub _ _ _
  refine ⟨(run params world s 1).backlog + 1, fun k hk row hrow => ?_⟩
  obtain ⟨j, rfl⟩ := Nat.exists_eq_add_of_le' (Nat.le_of_add_left_le hk)
  have hzero : (run params world s (j + 1)).backlog = 0 := by
    have hle := hbacklog j
    rw [Nat.sub_eq_zero_of_le (Nat.le_of_succ_le_succ hk)] at hle
    exact Nat.le_zero.mp hle
  rw [h.readExpectations_eq hroom j] at hrow
  have hsame : ((mid (j + 1)).resolveExpectations (world.clock (j + 1)) params.limit).isSettled =
      s.isSettled := by
    refine isSettled_congr (Eq.trans ?_ ((h.withdrawn (j + 1)).conversations.trans
      (h.conversationPart (j + 1))))
    obtain ⟨_, _, hmid⟩ := (h.stages (j + 1)).commitments.rest
    rw [Store.resolveExpectations, hmid]
    rfl
  rw [← hsame]
  refine stale_of_backlog (Nat.le_zero.mp ?_) row hrow
  calc ((mid (j + 1)).resolveExpectations (world.clock (j + 1)) params.limit).backlog
      ≤ (mid (j + 1)).backlog := backlog_resolve_le
    _ ≤ (run params world s (j + 1)).backlog := h.backlog_mid (j + 1)
    _ = 0 := hzero

end RunStages

/-! ## Room -/

/-- In each window, what waits has fewer than `limit` rows before it, whether these wait too or
are done. An expectation that a later scan resolves does not count. -/
structure HasRoom (params : ScanParams) (uuid : Nat → Purpose → Uuid) (clock : Nat → Nat)
    (s : Store) : Prop where
  commitments : Roomy params.limit MemoryFactRow.byUpdate FollowUpItem.byDue
    (commitmentItem (uuid 0) (clock 0)) (FollowUpItem.inTime params.nowUnixSecs) (fun _ => false)
    (commitmentDesk params s)
  projects : Roomy params.limit MemoryFactRow.byUpdate FollowUpItem.byDue
    (blockerItem (uuid 0) (clock 0) params.blockerEscalationSecs)
    (FollowUpItem.inTime params.nowUnixSecs) (fun _ => false) (projectDesk params s)
  expectations : Roomy params.limit OverdueQuestion.byOccurrence ResponseExpectation.byDue
    (responseExpectation (uuid 0) (clock 0) params.responseTimeoutSecs)
    (ResponseExpectation.inTime params.nowUnixSecs) s.isSettled (expectationDesk params s)

theorem RunStages.noStarvation (h : RunStages params world s mid last)
    (hroom : HasRoom params world.uuid world.clock s) : NoStarvation params (run params world s) := by
  have hcommitments := h.commitments.progress_of_roomy hroom.commitments ⟨0, fun _ _ _ _ => rfl⟩
  have hpro := h.projects.progress_of_roomy hroom.projects ⟨0, fun _ _ _ _ => rfl⟩
  have hexp := h.expectations.progress_of_roomy hroom.expectations
    (h.eventually_settled hroom.expectations.sources)
  exact {
    commitments := hcommitments.sources
    questions := hexp.sources
    projects := hpro.sources
    dueCommitments := hcommitments.items
    dueExpectations := hexp.items
    dueProjects := hpro.items
    unique := fun k => (h.named k).keyed }

section Idle

variable (h : RunStages params world.idle s mid last)
include h

theorem RunStages.idle_commitments : IdleRun params.limit MemoryFactRow.byUpdate FollowUpItem.byDue
    (fun k => commitmentItem (world.uuid k) (world.clock k))
    (FollowUpItem.inTime params.nowUnixSecs) (fun _ => false)
    (fun k => commitmentDesk params (run params world.idle s k))
    fun k => commitmentDesk params
      ((run params world.idle s k).readCommitments (world.uuid k) (world.clock k) params) where
  prepares k := ⟨_, .refl, (h.stages k).materialises_commitments h.fresh⟩
  serves k := ⟨_, (h.stages k).serves_commitments, (h.stages k).settles_commitments h.fresh _⟩
  unserved _ _ _ hsrv := hsrv
  window k _ hdue hsrv := (h.stages k).window_commitments hdue hsrv

theorem RunStages.idle_projects : IdleRun params.limit MemoryFactRow.byUpdate FollowUpItem.byDue
    (fun k => blockerItem (world.uuid k) (world.clock k) params.blockerEscalationSecs)
    (FollowUpItem.inTime params.nowUnixSecs) (fun _ => false)
    (fun k => projectDesk params (run params world.idle s k))
    fun k => projectDesk params ((last k).readProjects (world.uuid k) (world.clock k) params) where
  prepares k := ⟨_, (h.stages k).settles_projects h.fresh _,
    (h.stages k).materialises_projects h.fresh⟩
  serves k := ⟨_, (h.stages k).serves_projects, .refl⟩
  unserved k _ hdue hsrv := (h.stages k).unserved_projects hdue hsrv
  window k _ hdue hsrv := (h.stages k).window_projects hdue hsrv

theorem RunStages.idle_expectations : IdleRun params.limit OverdueQuestion.byOccurrence
    ResponseExpectation.byDue
    (fun k => responseExpectation (world.uuid k) (world.clock k) params.responseTimeoutSecs)
    (ResponseExpectation.inTime params.nowUnixSecs) s.isSettled
    (fun k => expectationDesk params (run params world.idle s k))
    fun k => expectationDesk params
      ((mid k).readExpectations (world.uuid k) (world.clock k) params) where
  prepares k := ⟨_, isSettled_congr (h.conversationPart k) ▸ (h.stages k).settles_expectations,
    (h.stages k).materialises_expectations h.fresh⟩
  serves k := ⟨_, (h.stages k).serves_expectations, (h.stages k).expectationDesk_t ▸ .refl⟩
  unserved k _ _ hsrv := (h.stages k).unserved_expectations hsrv
  window k _ hdue hsrv := (h.stages k).window_expectations hdue hsrv

/-- An Owner who does nothing shows what there is no room for. -/
theorem RunStages.hasRoom (hrch : NoStarvation params (run params world.idle s)) :
    HasRoom params world.uuid world.clock s where
  commitments := h.idle_commitments.roomy_of_progress ⟨hrch.commitments, hrch.dueCommitments⟩
  projects := h.idle_projects.roomy_of_progress ⟨hrch.projects, hrch.dueProjects⟩
  expectations := h.idle_expectations.roomy_of_progress ⟨hrch.questions, hrch.dueExpectations⟩

end Idle

end Runs

variable {clocks : Nat → Nat}

theorem hasRoom_of_idle (hval : params.Valid) (hkeyed : s.Keyed) (hfr : NeverRepeats uuid s.uuids)
    (hrch : NoStarvation params (run params ⟨uuid, clocks, fun _ => []⟩ s)) :
    HasRoom params uuid clocks s := by
  obtain ⟨mid, last, hstag⟩ :=
    exists_runStages (World.idle ⟨uuid, clocks, fun _ => []⟩) hval hkeyed hfr
  exact hstag.hasRoom hrch

/-- Whatever the Owner does, the scans reach everything, if and only if there is room for
everything at the start. -/
theorem noStarvation_iff (hvalid : params.Valid) (hkeyed : s.Keyed)
    (hfresh : NeverRepeats uuid s.uuids) :
    (∀ owner, NoStarvation params (run params ⟨uuid, clocks, owner⟩ s)) ↔
      HasRoom params uuid clocks s := by
  constructor
  · intro hrch
    exact hasRoom_of_idle hvalid hkeyed hfresh (hrch _)
  · intro hroom owner
    obtain ⟨mid, last, hstag⟩ := exists_runStages ⟨uuid, clocks, owner⟩ hvalid hkeyed hfresh
    exact hstag.noStarvation hroom

/-! ## Two commitments -/

namespace Scripted

def ReasonCode.code : ReasonCode → Nat
  | .commitmentDue => 0
  | .projectBlocked => 1

def SourceKind.code : SourceKind → Nat
  | .followUp => 0
  | .responseExpectation => 1

/-- A number for what is named. -/
def code : Purpose → Nat
  | .followUp factId reason => 4 * Nat.pair factId (ReasonCode.code reason)
  | .responseExpectation questionId => 4 * questionId + 1
  | .candidate source => 4 * Nat.pair (Nat.pair source.accountId (SourceKind.code source.sourceKind))
      (Nat.pair source.sourceId source.sourceVersion) + 2
  | .request candidateId => 4 * candidateId + 3

/-- The identifiers of each round are its own. -/
def uuids (k : Nat) (purpose : Purpose) : Uuid := Nat.pair k (code purpose)

theorem ReasonCode.code_injective {a b : ReasonCode} (h : ReasonCode.code a = ReasonCode.code b) :
    a = b := by
  cases a <;> cases b <;> first | rfl | exact absurd h (by decide)

theorem SourceKind.code_injective {a b : SourceKind} (h : SourceKind.code a = SourceKind.code b) :
    a = b := by
  cases a <;> cases b <;> first | rfl | exact absurd h (by decide)

theorem code_injective {p q : Purpose} (h : code p = code q) : p = q := by
  have hrest : code p % 4 = code q % 4 := by rw [h]
  cases p <;> cases q <;> simp only [code] at h hrest <;> try omega
  case followUp.followUp factId reason factId' reason' =>
    obtain ⟨hfact, hrsn⟩ := Nat.pair_eq_pair.mp (Nat.eq_of_mul_eq_mul_left (by decide) h)
    rw [hfact, ReasonCode.code_injective hrsn]
  case responseExpectation.responseExpectation question question' =>
    rw [Nat.eq_of_mul_eq_mul_left (by decide) (Nat.add_right_cancel h)]
  case candidate.candidate source source' =>
    obtain ⟨hacc, hid⟩ :=
      Nat.pair_eq_pair.mp (Nat.eq_of_mul_eq_mul_left (by decide) (Nat.add_right_cancel h))
    obtain ⟨hacc, hkind⟩ := Nat.pair_eq_pair.mp hacc
    obtain ⟨hid, hver⟩ := Nat.pair_eq_pair.mp hid
    have hkind := SourceKind.code_injective hkind
    cases source
    cases source'
    cases hacc
    cases hkind
    cases hid
    cases hver
    rfl
  case request.request candidate candidate' =>
    rw [Nat.eq_of_mul_eq_mul_left (by decide) (Nat.add_right_cancel h)]

theorem neverRepeats : NeverRepeats uuids [] where
  purpose h := code_injective (Nat.pair_eq_pair.mp h).2
  new _ _ := List.not_mem_nil

/-- A confirmed commitment that is pending. -/
def commitment (factId : Uuid) (due : Int) : MemoryFactRow where
  factId := factId
  accountId := 1
  payload := .commitment (some due) .pending
  factStatus := .confirmed
  supersedesFactId := none
  updatedAt := factId

def twoCommitments : Store where
  facts := [commitment 1 10, commitment 2 20]
  followUps := []
  questions := []
  questionSources := []
  threads := []
  threadEvents := []
  events := []
  conversations := []
  expectations := []
  candidates := []
  requests := []

theorem twoCommitments_keyed : twoCommitments.Keyed := by
  constructor <;> simp [twoCommitments, commitment]

def scanParams (limit : Nat) : ScanParams where
  nowUnixSecs := 100
  horizonSecs := 60
  responseTimeoutSecs := 300
  blockerEscalationSecs := 3600
  limit := limit

theorem scanParams_valid {limit : Nat} (h : 1 ≤ limit ∧ limit ≤ 1000) : (scanParams limit).Valid := by
  constructor <;> simp [scanParams, h]

end Scripted

open Scripted in
theorem twoCommitments_hasRoom : HasRoom (scanParams 2) uuids id twoCommitments where
  commitments := ⟨by decide, by decide⟩
  projects := ⟨by decide, by decide⟩
  expectations := ⟨by decide, by decide⟩

open Scripted in
/-- A limit of two has room for two commitments. -/
theorem noStarvation_iff_twoCommitments : HasRoom (scanParams 2) uuids id twoCommitments ∧
    ∀ owner, NoStarvation (scanParams 2) (run (scanParams 2) ⟨uuids, id, owner⟩ twoCommitments) :=
  ⟨twoCommitments_hasRoom, (noStarvation_iff (scanParams_valid (by decide)) twoCommitments_keyed
    neverRepeats).mpr twoCommitments_hasRoom⟩

open Scripted in
/-- With a limit of one the second of two commitments never gets its item. -/
theorem second_commitment_starves : ¬ ∀ (params : ScanParams) (s : Store) (world : World),
    params.Valid → s.Keyed → NeverRepeats world.uuid s.uuids →
      NoStarvation params (run params world s) := by
  intro hcl
  have hval : (scanParams 1).Valid := scanParams_valid (by decide)
  have hroom := hasRoom_of_idle hval twoCommitments_keyed neverRepeats
    (hcl (scanParams 1) twoCommitments ⟨uuids, id, fun _ => []⟩ hval twoCommitments_keyed
      neverRepeats)
  exact absurd (hroom.commitments.sources (commitment 2 20) (by decide) (by decide))
    (by decide)

end ServerRS.FollowUp

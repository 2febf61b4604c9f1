import ServerRS.FollowUp.Desks

/-!
# Rounds of the scheduler

A control of the Owner withdraws rows from the three desks (`applyControls_withdrawn`). A round
never fails, and passes through the stores that its three transactions read (`Stages`). From
these, the desks of a run are runs of bounded scans, and idle ones when the Owner does nothing.
-/

namespace ServerRS.FollowUp

open Lib Lib.BoundedScan

variable {uuid : Nat → Purpose → Uuid} {old : List Uuid} {params : ScanParams} {s t : Store}
  {k clock : Nat}

/-! ## Controls -/

/-- What no scan and no control changes. -/
def Store.conversationPart (s : Store) : List OpenQuestion × List QuestionSource ×
    List EventThread × List ThreadEvent × List SourceEvent × List Conversation :=
  (s.questions, s.questionSources, s.threads, s.threadEvents, s.events, s.conversations)

theorem isSettled_congr (h : t.conversationPart = s.conversationPart) :
    t.isSettled = s.isSettled := by
  cases s
  cases t
  cases h
  rfl

/-- The expectations that wait to be resolved. -/
def Store.backlog (s : Store) : Nat :=
  s.expectations.countP fun row => row.expectationStatus = .active && s.isSettled row

/-- Rows were withdrawn from the desks. -/
structure Withdrawn (uuid : Nat → Purpose → Uuid) (old : List Uuid) (params : ScanParams)
    (s t : Store) : Prop where
  named : Named uuid old t
  conversations : t.conversationPart = s.conversationPart
  backlog : t.backlog ≤ s.backlog
  commitments : Withdraws (commitmentDesk params s) (commitmentDesk params t)
  projects : Withdraws (projectDesk params s) (projectDesk params t)
  expectations : Withdraws (expectationDesk params s) (expectationDesk params t)

theorem Withdrawn.refl (h : Named uuid old s) : Withdrawn uuid old params s s :=
  ⟨h, rfl, le_refl _, .refl, .refl, .refl⟩

theorem Withdrawn.trans {r : Store} (h : Withdrawn uuid old params s t)
    (h' : Withdrawn uuid old params t r) : Withdrawn uuid old params s r :=
  ⟨h'.named, h'.conversations.trans h.conversations, h'.backlog.trans h.backlog,
    h.commitments.trans h'.commitments, h.projects.trans h'.projects,
    h.expectations.trans h'.expectations⟩

/-- A fact that is gone makes nothing eligible or due. -/
structure FactsWithdrawn (params : ScanParams) (s t : Store) : Prop where
  commitments : (t.eligibleCommitments params.horizon).Sublist
    (s.eligibleCommitments params.horizon)
  projects : (t.eligibleProjects params.blockerEscalationSecs params.horizon).Sublist
    (s.eligibleProjects params.blockerEscalationSecs params.horizon)
  isDueCommitment : ∀ item, t.isDueCommitment params.nowUnixSecs item = true →
    s.isDueCommitment params.nowUnixSecs item = true
  isDueProject : ∀ item, t.isDueProject params.nowUnixSecs item = true →
    s.isDueProject params.nowUnixSecs item = true

theorem FactsWithdrawn.refl : FactsWithdrawn params s s :=
  ⟨.refl _, .refl _, fun _ h => h, fun _ h => h⟩

variable {cond : FollowUpItem → Bool} {set : FollowUpItem → FollowUpItem}

theorem followUpDesk_withdraws {eligible eligible' : List MemoryFactRow} {reason : ReasonCode}
    {isDue isDue' : FollowUpItem → Bool} (helig : eligible'.Sublist eligible)
    (hkeys : FollowUpItem.KeepsKeys set) (hdue : ∀ item, isDue' item = true → isDue item = true)
    (hset : ∀ item, cond item = true → isDue' (set item) = false)
    (hfollowUps : t.followUps = updateWhere cond set s.followUps)
    (hcands : t.candidates = s.candidates) :
    Withdraws (followUpDesk eligible reason isDue s) (followUpDesk eligible' reason isDue' t) where
  eligible := helig
  made := funext fun fact => by
    change t.followUps.any _ = s.followUps.any _
    rw [hfollowUps]
    exact any_updateWhere fun item => by rw [(hkeys item).2.1, (hkeys item).2.2]
  due := by
    change (t.followUps.filter isDue').Sublist (s.followUps.filter isDue)
    rw [hfollowUps]
    exact (filter_updateWhere_sublist hset).trans (List.monotone_filter_right _ hdue)
  served item hitem := by
    change t.candidates.any _ = true
    rwa [hcands]

/-- Items are finished or put off, and facts may be withdrawn. -/
theorem withdrawn_of_update {c : Store} (hc : Named uuid old c) (hfacts : FactsWithdrawn params s c)
    (hkeys : FollowUpItem.KeepsKeys set) (hset : ∀ item, cond item = true →
      c.isDueCommitment params.nowUnixSecs (set item) = false ∧
        c.isDueProject params.nowUnixSecs (set item) = false)
    (hrest : c = { s with facts := c.facts }) :
    Withdrawn uuid old params s { c with followUps := updateWhere cond set c.followUps } := by
  have hfollowUps : c.followUps = s.followUps := by rw [hrest]
  have hcands : c.candidates = s.candidates := by rw [hrest]
  refine ⟨hc.updateFollowUps hkeys, by rw [hrest]; rfl, by rw [hrest]; exact le_refl _, ?_, ?_, ?_⟩
  · exact followUpDesk_withdraws hfacts.commitments hkeys hfacts.isDueCommitment
      (fun item hitem => (hset item hitem).1) (by rw [hfollowUps]) hcands
  · exact followUpDesk_withdraws hfacts.projects hkeys hfacts.isDueProject
      (fun item hitem => (hset item hitem).2) (by rw [hfollowUps]) hcands
  · rw [hrest]
    exact .refl

section Replace

variable {accountId : Nat} {factId fulfilledFactId : Uuid} {due : Option Int}
  {p : FactPayload → Bool}

theorem hasSuccessor_replace {id : Uuid} (h : s.hasSuccessor id = true) :
    (s.replaceFulfilled clock accountId factId fulfilledFactId due).hasSuccessor id = true := by
  have hkept : (updateWhere (MemoryFactRow.isSource accountId factId)
      (fun fact => { fact with factStatus := .superseded, updatedAt := clock }) s.facts).any
        (fun fact => decide (fact.supersedesFactId = some id)) = true := by
    refine Eq.trans (any_updateWhere fun fact => ?_) h
    rfl
  rw [Store.hasSuccessor, Store.replaceFulfilled, List.any_append, hkept, Bool.true_or]

theorem standing_of_replace {fact : MemoryFactRow}
    (h : (s.replaceFulfilled clock accountId factId fulfilledFactId due).standing p fact = true) :
    s.standing p fact = true := by
  obtain ⟨hconf, hnone, hpay⟩ := Store.standing_iff.mp h
  refine Store.standing_iff.mpr ⟨hconf, ?_, hpay⟩
  rw [Bool.eq_false_iff] at hnone ⊢
  exact fun h => hnone (hasSuccessor_replace h)

/-- The replaced fact no longer stands, and neither does the fulfilled one. -/
theorem filter_replace (hp : p (.commitment due .fulfilled) = false) (r : MemoryFactRow → Bool) :
    ((s.replaceFulfilled clock accountId factId fulfilledFactId due).facts.filter fun fact =>
      (s.replaceFulfilled clock accountId factId fulfilledFactId due).standing p fact && r fact).Sublist
      (s.facts.filter fun fact => s.standing p fact && r fact) := by
  refine (List.monotone_filter_right (q := fun fact => s.standing p fact && r fact) _
    fun fact h => ?_).trans ?_
  · rw [Bool.and_eq_true] at h ⊢
    exact ⟨standing_of_replace h.1, h.2⟩
  · have hnew : [(⟨fulfilledFactId, accountId, .commitment due .fulfilled, .confirmed, some factId,
        clock⟩ : MemoryFactRow)].filter (fun fact => s.standing p fact && r fact) = [] := by
      simp [Store.standing, hp]
    rw [Store.replaceFulfilled, List.filter_append, hnew, List.append_nil]
    exact filter_updateWhere_sublist fun fact _ => by simp [Store.standing]

theorem ofFact_of_replace (hp : p (.commitment due .fulfilled) = false) {item : FollowUpItem}
    (h : (s.replaceFulfilled clock accountId factId fulfilledFactId due).ofFact
      ((s.replaceFulfilled clock accountId factId fulfilledFactId due).standing p) item = true) :
    s.ofFact (s.standing p) item = true := by
  obtain ⟨fact, hfact, hid, hstand⟩ := Store.ofFact_iff.mp h
  have hmem := (filter_replace hp fun _ => true).subset
    (List.mem_filter.mpr ⟨hfact, by rw [hstand]; rfl⟩)
  obtain ⟨hfact, hstand⟩ := List.mem_filter.mp hmem
  rw [Bool.and_true] at hstand
  exact Store.ofFact_iff.mpr ⟨fact, hfact, hid, hstand⟩

/-- A fulfilled commitment takes the place of a pending one. -/
theorem factsWithdrawn_replace :
    FactsWithdrawn params s (s.replaceFulfilled clock accountId factId fulfilledFactId due) where
  commitments := filter_replace rfl _
  projects := filter_replace rfl _
  isDueCommitment item h := by
    rw [Store.isDueCommitment, Bool.and_eq_true] at h ⊢
    exact ⟨h.1, ofFact_of_replace rfl h.2⟩
  isDueProject item h := by
    rw [Store.isDueProject, Bool.and_eq_true] at h ⊢
    exact ⟨h.1, ofFact_of_replace rfl h.2⟩

theorem Named.replaceFulfilled (h : Named uuid old s)
    (hnew : ∀ fact ∈ s.facts, fact.factId ≠ fulfilledFactId) :
    Named uuid old (s.replaceFulfilled clock accountId factId fulfilledFactId due) := by
  have hids : (updateWhere (MemoryFactRow.isSource accountId factId)
      (fun fact => { fact with factStatus := .superseded, updatedAt := clock }) s.facts).map
        MemoryFactRow.factId = s.facts.map MemoryFactRow.factId :=
    map_updateWhere fun _ => rfl
  have hfacts : ((s.replaceFulfilled clock accountId factId fulfilledFactId due).facts.map
      MemoryFactRow.factId).Nodup := by
    refine nodup_map_concat ?_ ?_
    · rw [hids]
      exact h.keyed.factIds
    · intro other hoth
      have hmem : other.factId ∈ s.facts.map MemoryFactRow.factId := by
        rw [← hids]
        exact List.mem_map_of_mem hoth
      obtain ⟨fact, hfact, heq⟩ := List.mem_map.mp hmem
      rw [← heq]
      exact hnew fact hfact
  refine { h with keyed := { h.keyed with facts := List.pairwise_map.mp hfacts } }

end Replace

/-- What closing a commitment leaves, when it does not fail. -/
theorem closeCommitment_spec (h : Named uuid old s) {accountId : Nat}
    {factId fulfilledFactId : Uuid} {c : Store}
    (hclose : s.closeCommitment clock accountId factId fulfilledFactId = some c) :
    Named uuid old c ∧ FactsWithdrawn params s c ∧ c = { s with facts := c.facts } := by
  rw [Store.closeCommitment] at hclose
  split at hclose
  · split at hclose
    · cases hclose
    · next hfree =>
      rw [Bool.or_eq_true, not_or, Bool.not_eq_true, List.any_eq_false] at hfree
      cases hclose
      exact ⟨h.replaceFulfilled fun fact hfact heq => hfree.1 fact hfact (decide_eq_true heq),
        factsWithdrawn_replace, rfl⟩
  · cases hclose
    exact ⟨h, .refl, rfl⟩
  · cases hclose

theorem apply_withdrawn (h : Named uuid old s) (control : OwnerControl) :
    Withdrawn uuid old params s (control.apply clock params.nowUnixSecs s) := by
  cases control with
  | dismissFollowUp accountId followUpId version =>
    exact withdrawn_of_update h .refl FollowUpItem.finish_keepsKeys
      (fun item _ => not_due_of_finish FollowUpStatus.noConfusion item) rfl
  | snoozeFollowUp accountId followUpId version snoozeUntil =>
    refine withdrawn_of_update h .refl (fun _ => ⟨rfl, rfl, rfl⟩) (fun item hitem => ?_) rfl
    rw [Bool.and_eq_true, decide_eq_true_iff] at hitem
    simp [Store.isDueCommitment, Store.isDueProject, Int.not_le.mpr hitem.2.1]
  | completeFollowUp accountId followUpId version fulfilledFactId =>
    change Withdrawn uuid old params s (s.applyComplete clock accountId followUpId version
      fulfilledFactId)
    rw [Store.applyComplete]
    split
    · exact .refl h
    · next item _ =>
      dsimp only
      split
      · exact .refl h
      · next c hcls =>
        have hc : Named uuid old c ∧ FactsWithdrawn params s c ∧ c = { s with facts := c.facts } := by
          cases hrsn : item.reasonCode with
          | commitmentDue =>
            rw [hrsn] at hcls
            exact closeCommitment_spec h hcls
          | projectBlocked =>
            rw [hrsn] at hcls
            cases hcls
            exact ⟨h, .refl, rfl⟩
        exact withdrawn_of_update hc.1 hc.2.1 FollowUpItem.finish_keepsKeys
          (fun item _ => not_due_of_finish FollowUpStatus.noConfusion item) hc.2.2
  | dismissExpectation accountId expectationId version =>
    have hfinish (row : ResponseExpectation) :
        (row.finish clock .dismissed).expectationStatus ≠ .active := ExpectationStatus.noConfusion
    refine ⟨h.updateExpectations ResponseExpectation.finish_keepsKeys, rfl, ?_, .refl, .refl, ?_⟩
    · change (updateWhere _ _ s.expectations).countP _ ≤ s.expectations.countP _
      rw [List.countP_eq_length_filter, List.countP_eq_length_filter]
      exact (filter_updateWhere_sublist fun row _ => by simp [hfinish row]).length_le
    · exact {
        eligible := .refl _
        made := funext fun question => any_updateWhere fun _ => rfl
        due := filter_updateWhere_sublist fun row _ => by simp [hfinish row]
        served := fun _ h => h }

/-- Whatever the Owner does, it withdraws rows. -/
theorem applyControls_withdrawn (h : Named uuid old s) (controls : List OwnerControl) :
    Withdrawn uuid old params s (applyControls clock params.nowUnixSecs controls s) := by
  induction controls generalizing s with
  | nil => exact .refl h
  | cons control controls ih =>
    have hctl : Withdrawn uuid old params s (control.apply clock params.nowUnixSecs s) :=
      apply_withdrawn h control
    exact hctl.trans (ih hctl.named)

/-! ## The three transactions -/

def Store.readCommitments (uuid : Purpose → Uuid) (clock : Nat) (params : ScanParams) (s : Store) :
    Store :=
  ((s.supersede clock params.limit).complete clock params.limit).materializeCommitments uuid clock
    params.horizon params.limit

/-- The store that `scan_response_expectations` reads the due expectations of. -/
def Store.readExpectations (uuid : Purpose → Uuid) (clock : Nat) (params : ScanParams) (s : Store) :
    Store :=
  (s.resolveExpectations clock params.limit).materializeExpectations uuid clock
    params.responseTimeoutSecs params.horizon params.limit

/-- The store that `scan_project_blockers` reads the due items of. -/
def Store.readProjects (uuid : Purpose → Uuid) (clock : Nat) (params : ScanParams) (s : Store) :
    Store :=
  s.materializeBlockers uuid clock params.blockerEscalationSecs params.horizon params.limit

theorem Named.readCommitments (h : Named uuid old s) :
    Named uuid old (s.readCommitments (uuid k) clock params) :=
  ((h.updateFollowUps FollowUpItem.finish_keepsKeys).updateFollowUps
    FollowUpItem.finish_keepsKeys).insertFollowUps fun _ => commitmentItem_keys

theorem Named.readExpectations (h : Named uuid old s) :
    Named uuid old (s.readExpectations (uuid k) clock params) :=
  (h.updateExpectations ResponseExpectation.finish_keepsKeys).insertExpectations

theorem Named.readProjects (h : Named uuid old s) :
    Named uuid old (s.readProjects (uuid k) clock params) :=
  h.insertFollowUps fun _ => blockerItem_keys

/-- What a round goes through: `b` after the first scan, `c` after the second. -/
structure Stages (uuid : Nat → Purpose → Uuid) (old : List Uuid) (params : ScanParams)
    (k clock : Nat) (s b c t : Store) : Prop where
  commitments : Produced ((firstRows FollowUpItem.byDue params.limit
    ((s.readCommitments (uuid k) clock params).dueCommitments params.nowUnixSecs)).map
      FollowUpItem.source) (s.readCommitments (uuid k) clock params) b
  expectations : Produced ((firstRows ResponseExpectation.byDue params.limit
    ((b.readExpectations (uuid k) clock params).dueExpectations params.nowUnixSecs)).map
      ResponseExpectation.source) (b.readExpectations (uuid k) clock params) c
  projects : Produced ((firstRows FollowUpItem.byDue params.limit
    ((c.readProjects (uuid k) clock params).dueProjects params.nowUnixSecs)).map
      FollowUpItem.source) (c.readProjects (uuid k) clock params) t
  named : Named uuid old s
  named_b : Named uuid old b
  named_c : Named uuid old c
  named_t : Named uuid old t

variable (hfr : NeverRepeats uuid old)
include hfr

theorem scan_spec (scan : Except String (Store × FollowUpScanReport)) {read : Store}
    {sources : List CandidateSource} (hread : Named uuid old read)
    (hscan : ∀ t production, produceAll (uuid k) read sources = .ok (t, production) →
      ∃ report, scan = .ok (t, report)) :
    ∃ t report, scan = .ok (t, report) ∧ Produced sources read t ∧ Named uuid old t := by
  obtain ⟨t, production, hok, hprod, hnamed⟩ := produceAll_spec (k := k) hfr hread sources
  obtain ⟨report, hscan⟩ := hscan t production hok
  exact ⟨t, report, hscan, hprod, hnamed⟩

/-- A round fails at no point. -/
theorem scanAll_stages (hval : params.Valid) (h : Named uuid old s) : ∃ b c,
    Stages uuid old params k clock s b c (scanAll (uuid k) clock params s) := by
  obtain ⟨b, _, hb, hcom, hnamed_b⟩ := scan_spec hfr (k := k)
    (scanCommitments (uuid k) clock params s) h.readCommitments fun _ _ hok => by
      rw [scanCommitments, if_neg (by simp [hval.horizon, hval.limit])]
      exact ⟨_, congrArg (Except.bind · _) hok⟩
  obtain ⟨c, _, hc, hexp, hnamed_c⟩ := scan_spec hfr (k := k)
    (scanResponseExpectations (uuid k) clock params b) hnamed_b.readExpectations fun _ _ hok => by
      rw [scanResponseExpectations, if_neg (by simp [hval.horizon, hval.responseTimeout, hval.limit])]
      exact ⟨_, congrArg (Except.bind · _) hok⟩
  obtain ⟨t, _, ht, hproj, hnamed_t⟩ := scan_spec hfr (k := k)
    (scanProjectBlockers (uuid k) clock params c) hnamed_c.readProjects fun _ _ hok => by
      rw [scanProjectBlockers, if_neg (by simp [hval.horizon, hval.blockerEscalation, hval.limit])]
      exact ⟨_, congrArg (Except.bind · _) hok⟩
  have hscan : scanAll (uuid k) clock params s = t := by
    rw [scanAll, hb]
    dsimp only
    rw [hc]
    dsimp only
    rw [ht]
  exact ⟨b, c, hcom, hexp, hscan ▸ hproj, h, hnamed_b, hnamed_c,
    hscan ▸ hnamed_t⟩

end ServerRS.FollowUp

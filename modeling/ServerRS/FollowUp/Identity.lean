import ServerRS.FollowUp.Schedule

/-!
# Identifiers and unique keys

`UUID()` never repeats an identifier: what it names is determined by it (`NeverRepeats`). An
inserted row is then refused only for its business key, and production of a candidate never
fails. `Named` is what holds of every store the scheduler reaches.
-/

namespace ServerRS.FollowUp

open Lib

/-- `UUID()` gives different things different identifiers, and none of the `old` ones. -/
structure NeverRepeats (uuid : Nat → Purpose → Uuid) (old : List Uuid) : Prop where
  purpose : ∀ {j k p q}, uuid j p = uuid k q → p = q
  new : ∀ k p, uuid k p ∉ old

/-- The identifiers that are in use. -/
def Store.uuids (s : Store) : List Uuid :=
  s.followUps.map FollowUpItem.followUpId ++ s.expectations.map ResponseExpectation.expectationId ++
    s.candidates.map NotificationCandidate.notificationCandidateId ++
    s.requests.map EvaluationRequest.evaluationRequestId

/-- The keys are unique, and each identifier is old or names its own row. -/
structure Named (uuid : Nat → Purpose → Uuid) (old : List Uuid) (s : Store) : Prop where
  keyed : s.Keyed
  followUps : ∀ item ∈ s.followUps, item.followUpId ∈ old ∨
    ∃ k, item.followUpId = uuid k (.followUp item.sourceMemoryFactId item.reasonCode)
  expectations : ∀ row ∈ s.expectations, row.expectationId ∈ old ∨
    ∃ k, row.expectationId = uuid k (.responseExpectation row.sourceQuestionId)
  candidates : ∀ row ∈ s.candidates, row.notificationCandidateId ∈ old ∨
    ∃ k, row.notificationCandidateId = uuid k (.candidate row.source)
  requests : ∀ row ∈ s.requests, row.evaluationRequestId ∈ old ∨ row.evaluationGeneration = 1 ∧
    ∃ k, row.evaluationRequestId = uuid k (.request row.notificationCandidateId)

variable {uuid : Nat → Purpose → Uuid} {old : List Uuid} {s : Store} {k : Nat}

theorem named_initial (hkeyed : s.Keyed) : Named uuid s.uuids s where
  keyed := hkeyed
  followUps item hitem := by simp [Store.uuids, List.mem_map_of_mem hitem]
  expectations row hrow := by simp [Store.uuids, List.mem_map_of_mem hrow]
  candidates row hrow := by simp [Store.uuids, List.mem_map_of_mem hrow]
  requests row hrow := by simp [Store.uuids, List.mem_map_of_mem hrow]

/-! ## Conflicts -/

theorem FollowUpItem.conflicts_iff {a b : FollowUpItem} : a.conflicts b = true ↔
    a.followUpId = b.followUpId ∨
      a.sourceMemoryFactId = b.sourceMemoryFactId ∧ a.reasonCode = b.reasonCode := by
  simp [conflicts]

theorem ResponseExpectation.conflicts_iff {a b : ResponseExpectation} : a.conflicts b = true ↔
    a.expectationId = b.expectationId ∨ a.sourceQuestionId = b.sourceQuestionId := by
  simp [conflicts]

theorem NotificationCandidate.conflicts_iff {a b : NotificationCandidate} : a.conflicts b = true ↔
    a.notificationCandidateId = b.notificationCandidateId ∨ a.source = b.source := by
  simp [conflicts]

theorem EvaluationRequest.conflicts_iff {a b : EvaluationRequest} : a.conflicts b = true ↔
    a.evaluationRequestId = b.evaluationRequestId ∨
      a.notificationCandidateId = b.notificationCandidateId ∧
        a.evaluationGeneration = b.evaluationGeneration := by
  simp [conflicts]

theorem FollowUpItem.conflicts_symm (a b : FollowUpItem) : a.conflicts b = b.conflicts a := by
  rw [Bool.eq_iff_iff, conflicts_iff, conflicts_iff]
  exact or_congr eq_comm (and_congr eq_comm eq_comm)

theorem ResponseExpectation.conflicts_symm (a b : ResponseExpectation) :
    a.conflicts b = b.conflicts a := by
  rw [Bool.eq_iff_iff, conflicts_iff, conflicts_iff]
  exact or_congr eq_comm eq_comm

theorem NotificationCandidate.conflicts_symm (a b : NotificationCandidate) :
    a.conflicts b = b.conflicts a := by
  rw [Bool.eq_iff_iff, conflicts_iff, conflicts_iff]
  exact or_congr eq_comm eq_comm

theorem EvaluationRequest.conflicts_symm (a b : EvaluationRequest) :
    a.conflicts b = b.conflicts a := by
  rw [Bool.eq_iff_iff, conflicts_iff, conflicts_iff]
  exact or_congr eq_comm (and_congr eq_comm eq_comm)

namespace Store.Keyed

theorem followUpIds (h : s.Keyed) : (s.followUps.map FollowUpItem.followUpId).Nodup := by
  refine List.pairwise_map.mpr (h.followUps.imp fun {a b} hab heq => ?_)
  rw [FollowUpItem.conflicts_iff.mpr (.inl heq)] at hab
  exact Bool.noConfusion hab

theorem expectationIds (h : s.Keyed) :
    (s.expectations.map ResponseExpectation.expectationId).Nodup := by
  refine List.pairwise_map.mpr (h.expectations.imp fun {a b} hab heq => ?_)
  rw [ResponseExpectation.conflicts_iff.mpr (.inl heq)] at hab
  exact Bool.noConfusion hab

theorem factIds (h : s.Keyed) : (s.facts.map MemoryFactRow.factId).Nodup :=
  List.pairwise_map.mpr h.facts

theorem questionIds (h : s.Keyed) : (s.questions.map OpenQuestion.questionId).Nodup :=
  List.pairwise_map.mpr h.questions

end Store.Keyed

/-! ## Updates -/

/-- An update of items that leaves their keys alone. -/
def FollowUpItem.KeepsKeys (set : FollowUpItem → FollowUpItem) : Prop :=
  ∀ item, (set item).followUpId = item.followUpId ∧
    (set item).sourceMemoryFactId = item.sourceMemoryFactId ∧
    (set item).reasonCode = item.reasonCode

def ResponseExpectation.KeepsKeys (set : ResponseExpectation → ResponseExpectation) : Prop :=
  ∀ row, (set row).expectationId = row.expectationId ∧
    (set row).sourceQuestionId = row.sourceQuestionId

theorem FollowUpItem.finish_keepsKeys {clock : Nat} {status : FollowUpStatus} :
    KeepsKeys (.finish clock status) :=
  fun _ => ⟨rfl, rfl, rfl⟩

theorem ResponseExpectation.finish_keepsKeys {clock : Nat} {status : ExpectationStatus} :
    KeepsKeys (.finish clock status) :=
  fun _ => ⟨rfl, rfl⟩

theorem Named.updateFollowUps (h : Named uuid old s) {cond : FollowUpItem → Bool}
    {set : FollowUpItem → FollowUpItem} (hset : FollowUpItem.KeepsKeys set) :
    Named uuid old { s with followUps := updateWhere cond set s.followUps } := by
  have hkeys : FollowUpItem.KeepsKeys fun item => if cond item then set item else item := by
    intro item
    dsimp only
    split
    · exact hset item
    · exact ⟨rfl, rfl, rfl⟩
  refine { h with keyed := { h.keyed with followUps := ?_ }, followUps := ?_ }
  · refine List.pairwise_map.mpr (h.keyed.followUps.imp fun {a b} hab => ?_)
    obtain ⟨ha, ha', ha''⟩ := hkeys a
    obtain ⟨hb, hb', hb''⟩ := hkeys b
    rwa [FollowUpItem.conflicts, ha, ha', ha'', hb, hb', hb'', ← FollowUpItem.conflicts]
  · intro item hitem
    obtain ⟨row, hrow, rfl⟩ := List.mem_map.mp hitem
    obtain ⟨hid, hfact, hrsn⟩ := hkeys row
    rw [hid, hfact, hrsn]
    exact h.followUps row hrow

theorem Named.updateExpectations (h : Named uuid old s) {cond : ResponseExpectation → Bool}
    {set : ResponseExpectation → ResponseExpectation} (hset : ResponseExpectation.KeepsKeys set) :
    Named uuid old { s with expectations := updateWhere cond set s.expectations } := by
  have hkeys : ResponseExpectation.KeepsKeys fun row => if cond row then set row else row := by
    intro row
    dsimp only
    split
    · exact hset row
    · exact ⟨rfl, rfl⟩
  refine { h with keyed := { h.keyed with expectations := ?_ }, expectations := ?_ }
  · refine List.pairwise_map.mpr (h.keyed.expectations.imp fun {a b} hab => ?_)
    obtain ⟨ha, ha'⟩ := hkeys a
    obtain ⟨hb, hb'⟩ := hkeys b
    rwa [ResponseExpectation.conflicts, ha, ha', hb, hb', ← ResponseExpectation.conflicts]
  · intro row' hrow'
    obtain ⟨row, hrow, rfl⟩ := List.mem_map.mp hrow'
    obtain ⟨hid, hqn⟩ := hkeys row
    rw [hid, hqn]
    exact h.expectations row hrow

/-! ## Insertions -/

section Insert

variable (hfr : NeverRepeats uuid old)
include hfr

theorem FollowUpItem.conflicts_new (h : Named uuid old s) {item row : FollowUpItem}
    (hid : item.followUpId = uuid k (.followUp item.sourceMemoryFactId item.reasonCode))
    (hrow : row ∈ s.followUps) : item.conflicts row = true ↔
      row.sourceMemoryFactId = item.sourceMemoryFactId ∧ row.reasonCode = item.reasonCode := by
  rw [conflicts_iff]
  constructor
  · rintro (heq | ⟨hfact, hrsn⟩)
    · rcases h.followUps row hrow with hold | ⟨j, hj⟩
      · rw [← heq, hid] at hold
        exact absurd hold (hfr.new _ _)
      · rw [hid, hj] at heq
        obtain ⟨hfact, hrsn⟩ := Purpose.followUp.inj (hfr.purpose heq)
        exact ⟨hfact.symm, hrsn.symm⟩
    · exact ⟨hfact.symm, hrsn.symm⟩
  · rintro ⟨hfact, hrsn⟩
    exact .inr ⟨hfact.symm, hrsn.symm⟩

variable {reason : ReasonCode} {facts : List MemoryFactRow} {make : MemoryFactRow → FollowUpItem}
  {questions : List OverdueQuestion}

/-- The items of facts are inserted unless the facts have theirs. -/
theorem insert_followUps (h : Named uuid old s)
    (hmake : ∀ fact, (make fact).followUpId = uuid k (.followUp fact.factId reason) ∧
      (make fact).sourceMemoryFactId = fact.factId ∧ (make fact).reasonCode = reason)
    (hfacts : facts.Pairwise fun a b => a.factId ≠ b.factId) :
    insertIgnore FollowUpItem.conflicts s.followUps (facts.map make) =
      s.followUps ++ (facts.filter fun fact => !s.hasFollowUp fact.factId reason).map make := by
  rw [insertIgnore_eq, List.filter_map]
  · congr 2
    refine List.filter_congr fun fact _ => ?_
    obtain ⟨hid, hfact, hrsn⟩ := hmake fact
    rw [Function.comp_apply, Store.hasFollowUp, Bool.not_inj_iff, Bool.eq_iff_iff,
      List.any_eq_true, List.any_eq_true]
    refine exists_congr fun row => and_congr_right fun hrow => ?_
    rw [FollowUpItem.conflicts_new (k := k) hfr h (by rw [hid, hfact, hrsn]) hrow, hfact,
      hrsn, Bool.and_eq_true, decide_eq_true_iff, decide_eq_true_iff]
  · refine List.pairwise_map.mpr (hfacts.imp fun {a b} hab => ?_)
    obtain ⟨haid, hafact, -⟩ := hmake a
    obtain ⟨hbid, hbfact, -⟩ := hmake b
    rw [Bool.eq_false_iff, ne_eq, FollowUpItem.conflicts_iff, haid, hbid, hafact, hbfact]
    rintro (heq | ⟨heq, -⟩)
    · exact hab (Purpose.followUp.inj (hfr.purpose heq)).1.symm
    · exact hab heq.symm

omit hfr in
theorem Named.insertFollowUps (h : Named uuid old s)
    (hmake : ∀ fact, (make fact).followUpId = uuid k (.followUp fact.factId reason) ∧
      (make fact).sourceMemoryFactId = fact.factId ∧ (make fact).reasonCode = reason) :
    Named uuid old
      { s with followUps := insertIgnore FollowUpItem.conflicts s.followUps (facts.map make) } := by
  refine { h with
    keyed := { h.keyed with
      followUps := insertIgnore_pairwise FollowUpItem.conflicts_symm h.keyed.followUps }
    followUps := ?_ }
  intro item hitem
  rcases mem_of_mem_insertIgnore hitem with hitem | hitem
  · exact h.followUps item hitem
  · obtain ⟨fact, -, rfl⟩ := List.mem_map.mp hitem
    obtain ⟨hid, hfact, hrsn⟩ := hmake fact
    exact .inr ⟨k, by rw [hid, hfact, hrsn]⟩

theorem ResponseExpectation.conflicts_new (h : Named uuid old s) {new row : ResponseExpectation}
    (hid : new.expectationId = uuid k (.responseExpectation new.sourceQuestionId))
    (hrow : row ∈ s.expectations) :
    new.conflicts row = true ↔ row.sourceQuestionId = new.sourceQuestionId := by
  rw [conflicts_iff]
  constructor
  · rintro (heq | hqn)
    · rcases h.expectations row hrow with hold | ⟨j, hj⟩
      · rw [← heq, hid] at hold
        exact absurd hold (hfr.new _ _)
      · rw [hid, hj] at heq
        exact (Purpose.responseExpectation.inj (hfr.purpose heq)).symm
    · exact hqn.symm
  · intro hqn
    exact .inr hqn.symm

theorem insert_expectations (h : Named uuid old s) (clock : Nat) (timeout : Int)
    (hqns : questions.Pairwise fun a b => a.questionId ≠ b.questionId) :
    insertIgnore ResponseExpectation.conflicts s.expectations
        (questions.map (responseExpectation (uuid k) clock timeout)) =
      s.expectations ++ (questions.filter fun question => !s.hasExpectation question.questionId).map
        (responseExpectation (uuid k) clock timeout) := by
  rw [insertIgnore_eq, List.filter_map]
  · congr 2
    refine List.filter_congr fun question _ => ?_
    rw [Function.comp_apply, Store.hasExpectation, Bool.not_inj_iff, Bool.eq_iff_iff,
      List.any_eq_true, List.any_eq_true]
    refine exists_congr fun row => and_congr_right fun hrow => ?_
    rw [ResponseExpectation.conflicts_new (k := k) hfr h rfl hrow, decide_eq_true_iff]
    rfl
  · refine List.pairwise_map.mpr (hqns.imp fun {a b} hab => ?_)
    rw [Bool.eq_false_iff, ne_eq, ResponseExpectation.conflicts_iff]
    rintro (heq | heq)
    · exact hab (Purpose.responseExpectation.inj (hfr.purpose heq)).symm
    · exact hab heq.symm

omit hfr in
theorem Named.insertExpectations (h : Named uuid old s) {clock : Nat} {timeout : Int} :
    Named uuid old { s with
      expectations := insertIgnore ResponseExpectation.conflicts s.expectations
        (questions.map (responseExpectation (uuid k) clock timeout)) } := by
  refine { h with
    keyed := { h.keyed with
      expectations := insertIgnore_pairwise ResponseExpectation.conflicts_symm h.keyed.expectations }
    expectations := ?_ }
  intro row hrow
  rcases mem_of_mem_insertIgnore hrow with hrow | hrow
  · exact h.expectations row hrow
  · obtain ⟨question, -, rfl⟩ := List.mem_map.mp hrow
    exact .inr ⟨k, rfl⟩

/-! ## Production -/

/-- What production leaves: the candidates of the sources, and nothing else that a scan reads. -/
structure Produced (sources : List CandidateSource) (s t : Store) : Prop where
  rest : ∃ candidates requests, t = { s with candidates, requests }
  candidates : ∀ source, t.hasCandidate source = true ↔
    s.hasCandidate source = true ∨ source ∈ sources

theorem insert_candidate (h : Named uuid old s) {source : CandidateSource} :
    insertIgnore NotificationCandidate.conflicts s.candidates [⟨uuid k (.candidate source), source⟩] =
      if s.hasCandidate source then s.candidates
      else s.candidates ++ [⟨uuid k (.candidate source), source⟩] := by
  have hconf : s.candidates.any
      (NotificationCandidate.conflicts ⟨uuid k (.candidate source), source⟩) =
        s.hasCandidate source := by
    rw [Store.hasCandidate, Bool.eq_iff_iff, List.any_eq_true, List.any_eq_true]
    refine exists_congr fun row => and_congr_right fun hrow => ?_
    rw [NotificationCandidate.conflicts_iff, decide_eq_true_iff]
    constructor
    · rintro (heq | heq)
      · rcases h.candidates row hrow with hold | ⟨j, hj⟩
        · rw [← heq] at hold
          exact absurd hold (hfr.new _ _)
        · rw [hj] at heq
          exact (Purpose.candidate.inj (hfr.purpose heq)).symm
      · exact heq.symm
    · intro heq
      exact .inr heq.symm
  rw [insertIgnore_cons, hconf]
  rfl

theorem insertCandidate_spec (h : Named uuid old s) (source : CandidateSource) :
    ∃ candidateId created, insertCandidate (uuid k) s source =
      .ok (if s.hasCandidate source then s.candidates
        else s.candidates ++ [⟨uuid k (.candidate source), source⟩], candidateId, created) := by
  rw [insertCandidate, insert_candidate hfr h]
  by_cases hhas : s.hasCandidate source = true
  · obtain ⟨row, hrow, heq⟩ := List.any_eq_true.mp hhas
    have hsome : (s.candidates.find? fun row => decide (row.source = source)).isSome = true :=
      List.find?_isSome.mpr ⟨row, hrow, heq⟩
    obtain ⟨found, hfnd⟩ := Option.isSome_iff_exists.mp hsome
    rw [if_pos hhas, Nat.sub_self, loadCandidateId, hfnd]
    exact ⟨_, _, rfl⟩
  · rw [if_neg hhas, List.length_append, Nat.add_sub_cancel_left]
    exact ⟨_, _, rfl⟩

theorem insertRequest_spec (h : Named uuid old s) (candidateId : Uuid) :
    ∃ created, insertRequest (uuid k) s candidateId =
      .ok (insertIgnore EvaluationRequest.conflicts s.requests
        [⟨uuid k (.request candidateId), candidateId, 1⟩], created) := by
  rw [insertRequest, insertIgnore_cons]
  by_cases hany : s.requests.any
      (EvaluationRequest.conflicts ⟨uuid k (.request candidateId), candidateId, 1⟩) = true
  · obtain ⟨row, hrow, hconf⟩ := List.any_eq_true.mp hany
    have hfst : row.notificationCandidateId = candidateId ∧ row.evaluationGeneration = 1 := by
      rcases EvaluationRequest.conflicts_iff.mp hconf with heq | ⟨hcand, hgen⟩
      · rcases h.requests row hrow with hold | ⟨hgen, j, hj⟩
        · rw [← heq] at hold
          exact absurd hold (hfr.new _ _)
        · rw [hj] at heq
          exact ⟨(Purpose.request.inj (hfr.purpose heq)).symm, hgen⟩
      · exact ⟨hcand.symm, hgen.symm⟩
    have hensure : ensureGenerationOneRequest s.requests candidateId = .ok () :=
      if_pos (List.any_eq_true.mpr ⟨row, hrow, by simp [hfst]⟩)
    refine ⟨0, ?_⟩
    rw [if_pos hany]
    dsimp only [insertIgnore, List.foldl_nil]
    rw [Nat.sub_self]
    show (do ensureGenerationOneRequest s.requests candidateId; return (s.requests, 0)) = _
    rw [hensure]
    rfl
  · refine ⟨1, ?_⟩
    rw [if_neg hany]
    dsimp only [insertIgnore, List.foldl_nil]
    rw [List.length_append, Nat.add_sub_cancel_left]
    rfl

theorem produce_spec (h : Named uuid old s) (source : CandidateSource) :
    ∃ t production, produceFromLockedSource (uuid k) s source = .ok (t, production) ∧
      Produced [source] s t ∧ Named uuid old t := by
  obtain ⟨candidateId, candidatesCreated, hcand⟩ := insertCandidate_spec (k := k) hfr h source
  obtain ⟨requestsCreated, hreq⟩ := insertRequest_spec (k := k) hfr h candidateId
  rw [← insert_candidate hfr h] at hcand
  have hproduce : produceFromLockedSource (uuid k) s source = .ok
      ({ s with
        candidates := insertIgnore NotificationCandidate.conflicts s.candidates
          [⟨uuid k (.candidate source), source⟩]
        requests := insertIgnore EvaluationRequest.conflicts s.requests
          [⟨uuid k (.request candidateId), candidateId, 1⟩] },
        ⟨candidatesCreated, requestsCreated⟩) := by
    rw [produceFromLockedSource, hcand]
    dsimp only [bind, Except.bind]
    rw [hreq]
    rfl
  refine ⟨_, _, hproduce, ⟨⟨_, _, rfl⟩, fun other => ?_⟩, ?_⟩
  · rw [Store.hasCandidate, insert_candidate hfr h]
    by_cases hhas : s.hasCandidate source = true
    · rw [if_pos hhas, ← Store.hasCandidate]
      constructor
      · exact .inl
      · rintro (h | h)
        · exact h
        · rwa [List.mem_singleton.mp h]
    · rw [if_neg hhas, List.any_append, Bool.or_eq_true, ← Store.hasCandidate]
      have hnew : ([⟨uuid k (.candidate source), source⟩] : List NotificationCandidate).any
          (fun candidate => decide (candidate.source = other)) = true ↔ other ∈ [source] := by
        simp [eq_comm]
      exact or_congr_right hnew
  · refine { h with
      keyed := { h.keyed with
        candidates := insertIgnore_pairwise NotificationCandidate.conflicts_symm h.keyed.candidates
        requests := insertIgnore_pairwise EvaluationRequest.conflicts_symm h.keyed.requests }
      candidates := fun row hrow => ?_
      requests := fun row hrow => ?_ }
    · rcases mem_of_mem_insertIgnore hrow with hrow | hrow
      · exact h.candidates row hrow
      · rw [List.mem_singleton.mp hrow]
        exact .inr ⟨k, rfl⟩
    · rcases mem_of_mem_insertIgnore hrow with hrow | hrow
      · exact h.requests row hrow
      · rw [List.mem_singleton.mp hrow]
        exact .inr ⟨rfl, k, rfl⟩

/-- Production for a list of sources succeeds and gives each of them its candidate. -/
theorem produceAll_spec (h : Named uuid old s) (sources : List CandidateSource) :
    ∃ t production, produceAll (uuid k) s sources = .ok (t, production) ∧
      Produced sources s t ∧ Named uuid old t := by
  induction sources generalizing s with
  | nil => exact ⟨s, {}, rfl, ⟨⟨_, _, rfl⟩, by simp⟩, h⟩
  | cons source sources ih =>
    obtain ⟨t, first, hfst, hprod, ht⟩ := produce_spec (k := k) hfr h source
    obtain ⟨u, rest, hrest, hprod', hu⟩ := ih ht
    have hall : produceAll (uuid k) s (source :: sources) = .ok (u,
        ⟨first.candidatesCreated + rest.candidatesCreated,
          first.requestsCreated + rest.requestsCreated⟩) := by
      rw [produceAll, hfst]
      dsimp only [bind, Except.bind]
      rw [hrest]
      rfl
    refine ⟨u, _, hall, ⟨?_, fun other => ?_⟩, hu⟩
    · obtain ⟨_, _, rfl⟩ := hprod.rest
      obtain ⟨_, _, rfl⟩ := hprod'.rest
      exact ⟨_, _, rfl⟩
    · rw [hprod'.candidates, hprod.candidates, List.mem_singleton, List.mem_cons, or_assoc]

end Insert

end ServerRS.FollowUp

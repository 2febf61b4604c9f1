import ServerRS.FollowUp.Starvation

/-!
# Scans that find nothing new

A source that has its candidate, and the candidate its first request, is served (`Store.Served`).
Production serves every source (`served_of_produceAll`), and has nothing left to do for the sources
that are served (`produceAll_of_served`).
-/

namespace ServerRS.FollowUp

open Lib

variable {uuid : Purpose → Uuid} {s t : Store} {source : CandidateSource}
  {sources : List CandidateSource} {production : Production}

/-- The source has a candidate, and the candidate its first request. -/
def Store.Served (s : Store) (source : CandidateSource) : Prop :=
  ∃ candidateId, loadCandidateId s.candidates source = .ok candidateId ∧
    ensureGenerationOneRequest s.requests candidateId = .ok ()

variable {candidates : List NotificationCandidate} {candidateId : Uuid}
  {requests : List EvaluationRequest}

theorem loadCandidateId_eq_ok :
    loadCandidateId candidates source = .ok candidateId ↔
      ∃ candidate, candidates.find? (fun candidate => decide (candidate.source = source)) =
        some candidate ∧ candidate.notificationCandidateId = candidateId := by
  rw [loadCandidateId]
  split
  · next candidate hfnd => simp [hfnd]
  · next hnone => simp [hnone]

theorem ensureGenerationOneRequest_eq_ok :
    ensureGenerationOneRequest requests candidateId = .ok () ↔
      ∃ request ∈ requests, request.notificationCandidateId = candidateId ∧
        request.evaluationGeneration = 1 := by
  rw [ensureGenerationOneRequest]
  split
  · next h => simpa using h
  · next h => simpa using h

/-- Production only adds rows. -/
structure Grows (s t : Store) : Prop where
  rest : ∃ candidates requests, t = { s with candidates, requests }
  candidates : s.candidates <+: t.candidates
  requests : s.requests <+: t.requests

theorem Grows.refl : Grows s s := ⟨⟨_, _, rfl⟩, List.prefix_rfl, List.prefix_rfl⟩

theorem Grows.trans {r : Store} (h : Grows s t) (h' : Grows t r) : Grows s r := by
  refine ⟨?_, h.candidates.trans h'.candidates, h.requests.trans h'.requests⟩
  obtain ⟨_, _, rfl⟩ := h.rest
  obtain ⟨_, _, rfl⟩ := h'.rest
  exact ⟨_, _, rfl⟩

theorem Store.Served.grows (h : s.Served source) (hgrows : Grows s t) : t.Served source := by
  obtain ⟨candidateId, hload, hens⟩ := h
  obtain ⟨candidate, hfnd, hid⟩ := loadCandidateId_eq_ok.mp hload
  obtain ⟨more, hmore⟩ := hgrows.candidates
  refine ⟨candidateId, loadCandidateId_eq_ok.mpr ⟨candidate, ?_, hid⟩, ?_⟩
  · rw [← hmore, List.find?_append, hfnd]
    rfl
  · obtain ⟨request, hreq, hfst⟩ := ensureGenerationOneRequest_eq_ok.mp hens
    exact ensureGenerationOneRequest_eq_ok.mpr ⟨request, hgrows.requests.subset hreq, hfst⟩

/-! ## One source -/

theorem insertIgnore_one {α : Type} (conflicts : α → α → Bool) (rows : List α) (row : α) :
    insertIgnore conflicts rows [row] = rows ∧ rows.any (conflicts row) = true ∨
      insertIgnore conflicts rows [row] = rows ++ [row] ∧ rows.any (conflicts row) = false := by
  rw [insertIgnore_cons]
  cases hany : rows.any (conflicts row) with
  | true => exact .inl ⟨rfl, rfl⟩
  | false => exact .inr ⟨rfl, rfl⟩

theorem insertCandidate_ok {created : Nat}
    (h : insertCandidate uuid s source = .ok (candidates, candidateId, created)) :
    s.candidates <+: candidates ∧ loadCandidateId candidates source = .ok candidateId := by
  rw [insertCandidate] at h
  rcases insertIgnore_one NotificationCandidate.conflicts s.candidates
    ⟨uuid (.candidate source), source⟩ with ⟨hrows, -⟩ | ⟨hrows, hnone⟩
  · rw [hrows, Nat.sub_self] at h
    obtain ⟨found, hload, hres⟩ := Lib.Except.bind_ok h
    cases hres
    exact ⟨List.prefix_rfl, hload⟩
  · rw [hrows, List.length_append, Nat.add_sub_cancel_left] at h
    cases h
    refine ⟨List.prefix_append _ _, loadCandidateId_eq_ok.mpr
      ⟨⟨uuid (.candidate source), source⟩, ?_, rfl⟩⟩
    have hold : s.candidates.find? (fun candidate => decide (candidate.source = source)) = none := by
      refine List.find?_eq_none.mpr fun candidate hcand hsame => ?_
      have hconf := List.any_eq_false.mp hnone candidate hcand
      exact hconf (NotificationCandidate.conflicts_iff.mpr (.inr (of_decide_eq_true hsame).symm))
    rw [List.find?_append, hold]
    simp

theorem insertRequest_ok {created : Nat}
    (h : insertRequest uuid s candidateId = .ok (requests, created)) :
    s.requests <+: requests ∧ ensureGenerationOneRequest requests candidateId = .ok () := by
  rw [insertRequest] at h
  rcases insertIgnore_one EvaluationRequest.conflicts s.requests
    ⟨uuid (.request candidateId), candidateId, 1⟩ with ⟨hrows, -⟩ | ⟨hrows, -⟩
  · rw [hrows, Nat.sub_self] at h
    obtain ⟨_, hens, hres⟩ := Lib.Except.bind_ok h
    cases hres
    exact ⟨List.prefix_rfl, hens⟩
  · rw [hrows, List.length_append, Nat.add_sub_cancel_left] at h
    cases h
    exact ⟨List.prefix_append _ _, ensureGenerationOneRequest_eq_ok.mpr
      ⟨_, List.mem_append_right _ (List.mem_singleton_self _), rfl, rfl⟩⟩

theorem served_of_produce (h : produceFromLockedSource uuid s source = .ok (t, production)) :
    Grows s t ∧ t.Served source := by
  rw [produceFromLockedSource] at h
  obtain ⟨⟨candidates, candidateId, created⟩, hcand, h⟩ := Lib.Except.bind_ok h
  obtain ⟨⟨requests, requested⟩, hreq, h⟩ := Lib.Except.bind_ok h
  cases h
  obtain ⟨hcands, hload⟩ := insertCandidate_ok hcand
  obtain ⟨hreqs, hens⟩ := insertRequest_ok hreq
  exact ⟨⟨⟨_, _, rfl⟩, hcands, hreqs⟩, candidateId, hload, hens⟩

theorem produce_of_served (h : s.Served source) :
    produceFromLockedSource uuid s source = .ok (s, {}) := by
  obtain ⟨candidateId, hload, hens⟩ := h
  have hcand : insertCandidate uuid s source = .ok (s.candidates, candidateId, 0) := by
    obtain ⟨candidate, hfnd, -⟩ := loadCandidateId_eq_ok.mp hload
    have hconf : s.candidates.any
        (NotificationCandidate.conflicts ⟨uuid (.candidate source), source⟩) = true := by
      refine List.any_eq_true.mpr ⟨candidate, List.mem_of_find?_eq_some hfnd, ?_⟩
      have hsame := List.find?_some hfnd
      exact NotificationCandidate.conflicts_iff.mpr (.inr (of_decide_eq_true hsame).symm)
    have hrows : insertIgnore NotificationCandidate.conflicts s.candidates
        [⟨uuid (.candidate source), source⟩] = s.candidates :=
      insertIgnore_of_forall fun row hrow => by rwa [List.mem_singleton.mp hrow]
    rw [insertCandidate, hrows, Nat.sub_self]
    show (loadCandidateId s.candidates source >>= fun id => .ok (s.candidates, id, 0)) = _
    rw [hload]
    rfl
  have hreq : insertRequest uuid s candidateId = .ok (s.requests, 0) := by
    obtain ⟨request, hreq, hcandidateId, hgen⟩ :=
      ensureGenerationOneRequest_eq_ok.mp hens
    have hconf : s.requests.any
        (EvaluationRequest.conflicts ⟨uuid (.request candidateId), candidateId, 1⟩) = true :=
      List.any_eq_true.mpr ⟨request, hreq,
        EvaluationRequest.conflicts_iff.mpr (.inr ⟨hcandidateId.symm, hgen.symm⟩)⟩
    have hrows : insertIgnore EvaluationRequest.conflicts s.requests
        [⟨uuid (.request candidateId), candidateId, 1⟩] = s.requests :=
      insertIgnore_of_forall fun row hrow => by rwa [List.mem_singleton.mp hrow]
    rw [insertRequest, hrows, Nat.sub_self]
    show (ensureGenerationOneRequest s.requests candidateId >>= fun _ => .ok (s.requests, 0)) = _
    rw [hens]
    rfl
  rw [produceFromLockedSource, hcand]
  show (insertRequest uuid s candidateId >>= fun _ => _) = _
  rw [hreq]
  rfl

/-! ## All sources -/

theorem served_of_produceAll (h : produceAll uuid s sources = .ok (t, production)) :
    Grows s t ∧ ∀ source ∈ sources, t.Served source := by
  induction sources generalizing s t production with
  | nil =>
    cases h
    exact ⟨.refl, nofun⟩
  | cons source sources ih =>
    rw [produceAll] at h
    obtain ⟨⟨between, first⟩, hfst, h⟩ := Lib.Except.bind_ok h
    obtain ⟨⟨last, rest⟩, hrest, h⟩ := Lib.Except.bind_ok h
    cases h
    obtain ⟨hgrows, hsrv⟩ := served_of_produce hfst
    obtain ⟨hgrows', hall⟩ := ih hrest
    exact ⟨hgrows.trans hgrows', List.forall_mem_cons.mpr ⟨hsrv.grows hgrows', hall⟩⟩

theorem produceAll_of_served (h : ∀ source ∈ sources, s.Served source) :
    produceAll uuid s sources = .ok (s, {}) := by
  induction sources with
  | nil => rfl
  | cons source sources ih =>
    rw [produceAll, produce_of_served (h source List.mem_cons_self)]
    show (produceAll uuid s sources >>= fun _ => _) = _
    rw [ih fun other hoth => h other (List.mem_cons_of_mem _ hoth)]
    rfl

end ServerRS.FollowUp

import ServerRS.ActionGraph.Nodes

/-!
# The re-read of a conflict

`re_read_conflict` of `nodes.rs` with all that may be injected into its node: the memory, the account,
and whether the model runs on this machine. A context of a failed re-read carries no kind of fact, so
that it never passes its own checks, and the last resort of `fallback` panics.
-/

namespace ServerRS.ActionGraph

open Lib AgentCore

namespace ReplanDecisionNode

variable {W : Type}

/-! ## What may be shown -/

/-- The fact is the account's and confirmed, every source that it cites was read, and the planner may
read them all. -/
structure Vouched (account : SourceAccountRef) (isLocalLoopback : Bool) (view : MemoryFactView) :
    Prop where
  account : view.fact.account = account
  status : view.fact.status = .confirmed
  cites : view.fact.sourceEventIds ≠ []
  sources : ∀ id ∈ view.fact.sourceEventIds, ∃ source ∈ view.sources, source.sourceEventId = id
  readers : isLocalLoopback = true ∨ ∀ source ∈ view.sources, source.contentTrustLevel ≠ .localOnly

variable {view : MemoryFactView} {result : MemoryCandidateConflictResultV1}
  {conflict : MemoryCandidateConflictContext}

theorem allSourcesValid_iff : allSourcesValid view = true ↔
    view.fact.sourceEventIds ≠ [] ∧
      ∀ id ∈ view.fact.sourceEventIds, ∃ source ∈ view.sources, source.sourceEventId = id := by
  simp [allSourcesValid]

theorem checkView_eq_ok {account : SourceAccountRef} {isLocalLoopback : Bool} :
    checkView account isLocalLoopback result view = .ok conflict ↔
      Vouched account isLocalLoopback view ∧
        MemoryCandidateConflictContext.valid result.candidateId result.factId view.fact.payload.kind
          result.reasonCode result.summary view.fact.sourceEventIds
          (summarizeMemoryPayload view.fact.payload 500) = .ok conflict := by
  unfold checkView
  constructor
  · intro h
    split at h
    · cases h
    · next hacc =>
      split at h
      · cases h
      · next hstat =>
        split at h
        · cases h
        · next hsrcs =>
          split at h
          · cases h
          · next hlocal =>
            split at h
            · next hval =>
              cases h
              rw [Bool.not_eq_true', Bool.not_eq_false] at hsrcs
              obtain ⟨hcites, hread⟩ := allSourcesValid_iff.mp hsrcs
              refine ⟨⟨not_not.mp hacc, not_not.mp hstat, hcites, hread, ?_⟩, hval⟩
              rw [Bool.and_eq_true, not_and_or] at hlocal
              rcases hlocal with hloop | hany
              · exact .inl (by simpa using hloop)
              · refine .inr fun source hsrc heq => hany ?_
                exact List.any_eq_true.mpr ⟨source, hsrc, by simp [heq]⟩
            · cases h
  · rintro ⟨hvouc, hval⟩
    have hsrcs : allSourcesValid view = true :=
      allSourcesValid_iff.mpr ⟨hvouc.cites, hvouc.sources⟩
    have hlocal : ¬ ((!isLocalLoopback && view.sources.any fun source =>
        source.contentTrustLevel == .localOnly) = true) := by
      rw [Bool.and_eq_true]
      rintro ⟨hremote, hany⟩
      rcases hvouc.readers with hloop | hnone
      · rw [hloop] at hremote
        cases hremote
      · obtain ⟨source, hsrc, heq⟩ := List.any_eq_true.mp hany
        exact hnone source hsrc (eq_of_beq heq)
    rw [if_neg (not_not.mpr hvouc.account), if_neg (not_not.mpr hvouc.status),
      if_neg (by rw [hsrcs]; exact Bool.false_ne_true), if_neg hlocal, hval]

/-- What the memory answers, where there is one. -/
def Injected.answer (node : Injected W) (conflictResult : MemoryCandidateConflictResultV1)
    (world : W) : Option (Except String (Option MemoryFactView)) :=
  node.memory.map fun evidence => (evidence conflictResult.factId 800 world).1

/-- The memory answers with a fact that may be shown. -/
def Shows (node : Injected W) (conflictResult : MemoryCandidateConflictResultV1) (world : W)
    (view : MemoryFactView) : Prop :=
  node.answer conflictResult world = some (.ok (some view)) ∧
    ∃ account, node.account = some account ∧ Vouched account node.isLocalLoopback view

theorem reReadWith_eq_ok {node : Injected W} {world : W} :
    (reReadWith node result world).1 = .ok conflict ↔ ∃ view, Shows node result world view ∧
      MemoryCandidateConflictContext.valid result.candidateId result.factId view.fact.payload.kind
        result.reasonCode result.summary view.fact.sourceEventIds
        (summarizeMemoryPayload view.fact.payload 500) = .ok conflict := by
  unfold reReadWith Shows Injected.answer
  cases node.memory with
  | none =>
    refine ⟨fun h => (by cases h), ?_⟩
    rintro ⟨view, ⟨hans, -⟩, -⟩
    cases hans
  | some evidence =>
    dsimp only [Option.map_some]
    cases evidence result.factId 800 world with
    | mk answer world' =>
      cases answer with
      | error text =>
        refine ⟨fun h => (by cases h), ?_⟩
        rintro ⟨view, ⟨hans, -⟩, -⟩
        cases hans
      | ok found =>
        cases found with
        | none =>
          refine ⟨fun h => (by cases h), ?_⟩
          rintro ⟨view, ⟨hans, -⟩, -⟩
          cases hans
        | some view =>
          cases node.account with
          | none =>
            refine ⟨fun h => (by cases h), ?_⟩
            rintro ⟨other, ⟨-, account, hacc, -⟩, -⟩
            cases hacc
          | some account =>
            dsimp only
            rw [checkView_eq_ok]
            constructor
            · rintro ⟨hvouc, hval⟩
              exact ⟨view, ⟨rfl, account, rfl, hvouc⟩, hval⟩
            · rintro ⟨other, ⟨hans, own, hown, hvouc⟩, hval⟩
              cases hans
              cases hown
              exact ⟨hvouc, hval⟩

/-! ## What the context needs -/

theorem kind_bounded (payload : MemoryPayload) :
    isBlank payload.kind = false ∧ payload.kind.length ≤ 16 := by
  cases payload with
  | person => exact ⟨(by decide : isBlank "person" = false), (by decide : "person".length ≤ 16)⟩
  | project => exact ⟨(by decide : isBlank "project" = false), (by decide : "project".length ≤ 16)⟩
  | commitment =>
    exact ⟨(by decide : isBlank "commitment" = false), (by decide : "commitment".length ≤ 16)⟩

/-- The summary of a payload begins with a fixed text, and is cut. -/
theorem summary_bounded (payload : MemoryPayload) :
    isBlank (summarizeMemoryPayload payload 500) = false ∧
      (summarizeMemoryPayload payload 500).length ≤ MAX_WORKING_TEXT_CHARS := by
  refine ⟨?_, Nat.le_trans (takeChars_length_le _ 500) (by decide)⟩
  unfold summarizeMemoryPayload takeChars isBlank
  cases payload with
  | person person => cases hrel : person.relationship <;> simp [hrel, Spool.isWhitespace]
  | project project => simp [Spool.isWhitespace]
  | commitment commitment => simp [Spool.isWhitespace]

/-- Whether a context can be made of a fact that may be shown. -/
def Fits (result : MemoryCandidateConflictResultV1) (view : MemoryFactView) : Prop :=
  isBlank result.summary = false ∧ result.summary.length ≤ MAX_WORKING_TEXT_CHARS ∧
    view.fact.sourceEventIds.length ≤ MAX_WORKING_EVIDENCE_REFS ∧ view.fact.sourceEventIds.Nodup

theorem valid_eq_ok_iff (hcites : view.fact.sourceEventIds ≠ []) :
    (∃ conflict, MemoryCandidateConflictContext.valid result.candidateId result.factId
      view.fact.payload.kind result.reasonCode result.summary view.fact.sourceEventIds
      (summarizeMemoryPayload view.fact.payload 500) = .ok conflict) ↔ Fits result view := by
  have hkind := kind_bounded view.fact.payload
  have hsummary := summary_bounded view.fact.payload
  unfold MemoryCandidateConflictContext.valid MemoryCandidateConflictContext.validated
    validateConflictContext Fits
  constructor
  · rintro ⟨conflict, h⟩
    obtain ⟨⟨⟩, hchec, -⟩ := Except.bind_ok h
    simp only [Except.and_then_eq_ok, WorkingContext.boundedText_ok, WorkingContext.checkLen_ok,
      WorkingContext.ensureUnique_ok] at hchec
    exact ⟨hchec.2.1.1, hchec.2.1.2, hchec.2.2.1, hchec.2.2.2.1⟩
  · rintro ⟨hblank, hlen, hcnt, hnd⟩
    refine ⟨_, Except.and_then_eq_ok.mpr ⟨?_, rfl⟩⟩
    simp only [Except.and_then_eq_ok, WorkingContext.boundedText_ok, WorkingContext.checkLen_ok,
      WorkingContext.ensureUnique_ok, Option.elim_some, WorkingContext.check_ok]
    exact ⟨hkind, ⟨hblank, hlen⟩, hcnt, hnd, hsummary, fun _ => rfl, fun _ => hcites⟩

/-- A context of the conflict that passes its checks; it is valid only if the fact may be shown, and
tells nothing otherwise. -/
structure FailsClosed (node : Injected W) (conflictResult : MemoryCandidateConflictResultV1) (world : W)
    (conflict : MemoryCandidateConflictContext) : Prop where
  candidate : conflict.candidateId = conflictResult.candidateId
  fact : conflict.factId = conflictResult.factId
  checked : validateConflictContext conflict = .ok ()
  shown : conflict.reReadValid = true → ∃ view, Shows node conflictResult world view
  silent : conflict.reReadValid = false → conflict.factSummary = none ∧ conflict.sourceEventIds = []

/-- The re-read returns a context without a panic exactly when the memory answers with a fact that may
be shown, and a context can be made of it. -/
theorem reRead_failsClosed_iff (node : Injected W) (conflictResult : MemoryCandidateConflictResultV1)
    (world : W) :
    (∃ conflict, (reReadWith node conflictResult world).1 = .ok conflict ∧
      FailsClosed node conflictResult world conflict) ↔
      ∃ view, Shows node conflictResult world view ∧ Fits conflictResult view := by
  constructor
  · rintro ⟨conflict, hok, -⟩
    obtain ⟨view, hshows, hval⟩ := reReadWith_eq_ok.mp hok
    obtain ⟨-, account, -, hvouc⟩ := id hshows
    exact ⟨view, hshows, (valid_eq_ok_iff hvouc.cites).mp ⟨conflict, hval⟩⟩
  · rintro ⟨view, hshows, hfits⟩
    obtain ⟨-, account, -, hvouc⟩ := id hshows
    obtain ⟨conflict, hval⟩ := (valid_eq_ok_iff hvouc.cites).mpr hfits
    obtain ⟨hcand, hfact, -, htrue⟩ := MemoryCandidateConflictContext.valid_ok hval
    obtain ⟨⟨⟩, hchk, hmade⟩ := Except.bind_ok hval
    cases hmade
    exact ⟨_, reReadWith_eq_ok.mpr ⟨view, hshows, hval⟩, hcand, hfact, hchk,
      fun _ => ⟨view, hshows⟩, fun hfalse => by cases hfalse⟩

namespace Scripted

def conflictOfPerson : MemoryCandidateConflictResultV1 where
  version := 1
  candidateId := ⟨"candidate"⟩
  factId := ⟨"fact"⟩
  reasonCode := .activeFactPayloadDiffers
  summary := "conflict"

end Scripted

open Scripted in
/-- Without a memory there is no context: the last resort panics. -/
theorem reRead_panics_without_memory :
    ¬ ∃ conflict, (reReadWith (⟨none, none, false⟩ : Injected Unit) conflictOfPerson ()).1 =
        .ok conflict ∧ FailsClosed ⟨none, none, false⟩ conflictOfPerson () conflict := by
  rintro ⟨conflict, hok, -⟩
  obtain ⟨view, ⟨hans, -⟩, -⟩ := reReadWith_eq_ok.mp hok
  cases hans

end ReplanDecisionNode

end ServerRS.ActionGraph

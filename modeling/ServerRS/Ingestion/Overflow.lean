import ServerRS.Ingestion.Worker
import ServerRS.Lib.SplitList

/-!
# Gaps for dropped messages

After a message is dropped, a gap is persisted, unless the drop clears the flag between the effect of
a call that persists an earlier gap and the flag update of the worker (`drops_covered_iff`): the flag
does not say which drops the call has covered (`drop_behind_persisted_gap`).
-/

namespace ServerRS.Ingestion

open Lib

variable {M : Type} {config : IngestionConfig} {moves : List (Move M)} {move : Move M} {s s' : State M}

/-! ## What a move does -/

theorem finished_iff : s.finished = true ↔ s.gap = none ∧ s.worker = .ended := by
  unfold State.finished
  cases s.worker <;> simp

/-- The stages after the channel is closed. -/
def WorkerStage.Draining : WorkerStage M → Prop
  | .receive | .fill _ | .batches .loop _ | .insert .loop _ _ => False
  | _ => True

/-- A move of the worker outside `persist_overflow_gap`. -/
structure Control (s s' : State M) : Prop where
  idle : s.gap = none
  overflow : s'.overflow = s.overflow
  closed : s'.closed = s.closed
  clearing : s'.clearing = s.clearing
  counting : s'.counting = s.counting
  gap : s'.gap = none ∨ s'.gap = some .loadCount
  ended : s'.worker = .ended → s'.gap = some .loadCount
  draining : s'.worker.Draining → s.worker.Draining ∨ s.closed = true

/-- The moves of the worker outside `persist_overflow_gap`. -/
def Move.isControl : Move M → Bool
  | .take | .stop | .next | .inserted _ => true
  | _ => false

inductive Step (s : State M) : Move M → State M → Prop where
  | send {message : M} : Step s (.send message) { s with queue := s.queue ++ [message] }
  | refuse {call : ℕ} (hopen : s.closed = false) :
      Step s (.refuse call) { s with clearing := call :: s.clearing }
  | clear {call : ℕ} (hcall : call ∈ s.clearing) :
      Step s (.clear call) { s with
        overflow := { s.overflow with gapPersisted := false }
        clearing := s.clearing.erase call
        counting := call :: s.counting }
  | count {call : ℕ} (hcall : call ∈ s.counting) :
      Step s (.count call) { s with
        overflow := { s.overflow with droppedCount := s.overflow.droppedCount + 1 }
        counting := s.counting.erase call }
  | close (hcle : s.clearing = []) (hcoun : s.counting = []) :
      Step s .close { s with closed := true }
  | noDrops (hgap : s.gap = some .loadCount) (hcnt : s.overflow.droppedCount = 0) :
      Step s .look { s with gap := none }
  | drops (hgap : s.gap = some .loadCount) : Step s .look { s with gap := some .loadFlag }
  | persisted (hgap : s.gap = some .loadFlag) (hflag : s.overflow.gapPersisted = true) :
      Step s .look { s with gap := none }
  | unpersisted (hgap : s.gap = some .loadFlag) (hflag : s.overflow.gapPersisted = false) :
      Step s .look { s with gap := some .calling }
  | succeeded (hgap : s.gap = some .calling) :
      Step s (.uncertain (.ok ())) { s with gap := some .marking }
  | failed {error : InboundEventStoreError} (hgap : s.gap = some .calling) :
      Step s (.uncertain (.error error)) { s with gap := none }
  | mark (hgap : s.gap = some .marking) :
      Step s .mark { s with overflow := { s.overflow with gapPersisted := true }, gap := none }
  | control {move : Move M} {s' : State M} (hmove : move.isControl = true) (h : Control s s') :
      Step s move s'

theorem take_control (hidle : s.gap = none) (h : s.take config = some s') : Control s s' := by
  unfold State.take at h
  split at h
  · cases h
    exact ⟨hidle, rfl, rfl, rfl, rfl, .inl hidle, nofun, nofun⟩
  · split at h
    · cases h
      exact ⟨hidle, rfl, rfl, rfl, rfl, .inl hidle, nofun, nofun⟩
    · cases h
  · next hwkr =>
    have hdrain : s.worker.Draining := by rw [hwkr]; trivial
    dsimp only at h
    split at h
    all_goals
      cases h
      exact ⟨hidle, rfl, rfl, rfl, rfl, .inl hidle, nofun, fun _ => .inl hdrain⟩
  · cases h

theorem stop_control (hidle : s.gap = none) (h : s.stop = some s') : Control s s' := by
  unfold State.stop at h
  split at h
  · split at h
    · next hcls =>
      cases h
      exact ⟨hidle, rfl, rfl, rfl, rfl, .inl hidle, nofun, fun _ => .inr hcls.2⟩
    · cases h
  · cases h
    exact ⟨hidle, rfl, rfl, rfl, rfl, .inl hidle, nofun, nofun⟩
  · next hwkr =>
    have hdrain : s.worker.Draining := by rw [hwkr]; trivial
    split at h
    · cases h
    · split at h
      · cases h
        exact ⟨hidle, rfl, rfl, rfl, rfl, .inr rfl, fun _ => rfl, fun _ => .inl hdrain⟩
      · cases h
        exact ⟨hidle, rfl, rfl, rfl, rfl, .inl hidle, nofun, fun _ => .inl hdrain⟩
  · cases h

theorem next_control (hidle : s.gap = none) (h : s.next = some s') : Control s s' := by
  unfold State.next at h
  split at h
  · next caller hwkr =>
    cases h
    cases caller with
    | loop => exact ⟨hidle, rfl, rfl, rfl, rfl, .inr rfl, nofun, nofun⟩
    | drain =>
      have hdrain : s.worker.Draining := by rw [hwkr]; trivial
      exact ⟨hidle, rfl, rfl, rfl, rfl, .inl hidle, nofun, fun _ => .inl hdrain⟩
    | last =>
      have hdrain : s.worker.Draining := by rw [hwkr]; trivial
      exact ⟨hidle, rfl, rfl, rfl, rfl, .inr rfl, fun _ => rfl, fun _ => .inl hdrain⟩
  · next caller queue hwkr =>
    cases h
    refine ⟨hidle, rfl, rfl, rfl, rfl, .inl hidle, nofun, fun hdra => .inl ?_⟩
    rw [hwkr]
    cases caller <;> exact hdra
  · next caller current queue _ hwkr =>
    cases h
    refine ⟨hidle, rfl, rfl, rfl, rfl, .inr rfl, nofun, fun hdra => .inl ?_⟩
    rw [hwkr]
    cases caller <;> exact hdra
  · cases h

theorem inserted_control {answer : Except InboundEventStoreError Unit} (hidle : s.gap = none)
    (h : s.inserted answer = some s') : Control s s' := by
  have hkept : ∀ caller current queue queue', s.worker = .insert caller current queue →
      Control s { s with worker := .batches caller queue' } := by
    intro caller current queue queue' hwkr
    refine ⟨hidle, rfl, rfl, rfl, rfl, .inl hidle, nofun, fun hdra => .inl ?_⟩
    rw [hwkr]
    cases caller <;> exact hdra
  unfold State.inserted at h
  split at h
  · next hwkr =>
    cases h
    exact hkept _ _ _ _ hwkr
  · next hwkr =>
    split at h
    · cases h
      exact hkept _ _ _ _ hwkr
    · cases h
      exact hkept _ _ _ _ hwkr
  · next hwkr =>
    cases h
    refine ⟨hidle, rfl, rfl, rfl, rfl, .inl hidle, ?_, fun hdra => .inl hdra⟩
    rw [hwkr]
    exact nofun
  · cases h

theorem step_spec (h : s.step config move = some s') : Step s move s' := by
  cases move with
  | send message =>
    obtain ⟨-, ⟨⟩⟩ := Option.ite_none_right_eq_some.mp h
    exact .send
  | refuse call =>
    obtain ⟨⟨hopen, -⟩, ⟨⟩⟩ := Option.ite_none_right_eq_some.mp h
    exact .refuse hopen
  | clear call =>
    obtain ⟨hcall, ⟨⟩⟩ := Option.ite_none_right_eq_some.mp h
    exact .clear hcall
  | count call =>
    obtain ⟨hcall, ⟨⟩⟩ := Option.ite_none_right_eq_some.mp h
    exact .count hcall
  | close =>
    obtain ⟨⟨hcle, hcoun⟩, ⟨⟩⟩ := Option.ite_none_right_eq_some.mp h
    exact .close hcle hcoun
  | look =>
    obtain ⟨stage, hgap, hlook⟩ := Option.bind_eq_some_iff.mp h
    cases stage with
    | loadCount =>
      cases hlook
      by_cases hcnt : 0 < s.overflow.droppedCount
      · rw [if_pos hcnt]
        exact .drops hgap
      · rw [if_neg hcnt]
        exact .noDrops hgap (by simpa using hcnt)
    | loadFlag =>
      cases hlook
      cases hflag : s.overflow.gapPersisted with
      | true => exact .persisted hgap hflag
      | false => exact .unpersisted hgap hflag
    | calling => cases hlook
    | marking => cases hlook
  | uncertain answer =>
    obtain ⟨hgap, ⟨⟩⟩ := Option.ite_none_right_eq_some.mp h
    cases answer with
    | ok value => exact .succeeded hgap
    | error error => exact .failed hgap
  | mark =>
    obtain ⟨hgap, ⟨⟩⟩ := Option.ite_none_right_eq_some.mp h
    exact .mark hgap
  | take =>
    obtain ⟨hidle, htake⟩ := Option.ite_none_right_eq_some.mp h
    exact .control rfl (take_control hidle htake)
  | stop =>
    obtain ⟨hidle, hstop⟩ := Option.ite_none_right_eq_some.mp h
    exact .control rfl (stop_control hidle hstop)
  | next =>
    obtain ⟨hidle, hnext⟩ := Option.ite_none_right_eq_some.mp h
    exact .control rfl (next_control hidle hnext)
  | inserted answer =>
    obtain ⟨hidle, hinsd⟩ := Option.ite_none_right_eq_some.mp h
    exact .control rfl (inserted_control hidle hinsd)

/-! ## The claim, and its condition -/

/-- After each dropped message, a call that persists the gap takes effect. -/
def DropsCovered (moves : List (Move M)) : Prop :=
  ∀ before call after, moves = before ++ .refuse call :: after → .uncertain (.ok ()) ∈ after

def LastCallSucceeds (moves : List (Move M)) : Prop :=
  ∀ before answer after, moves = before ++ .uncertain answer :: after →
    (∀ later, .uncertain later ∉ after) → answer = .ok ()

/-- Whenever a message is dropped, and its drop clears the flag, between the effect of a call and the
flag update, another drop clears the flag later. -/
def NoneSuppressed (moves : List (Move M)) : Prop :=
  ∀ before middle after, moves = before ++ .uncertain (.ok ()) :: (middle ++ .mark :: after) →
    .mark ∉ middle → (∃ call, [.refuse call, .clear call].Sublist middle) →
      ∃ call, .clear call ∈ after

def Move.isRefuse : Move M → Bool
  | .refuse _ => true
  | _ => false

def Move.isCount : Move M → Bool
  | .count _ => true
  | _ => false

/-! ## Invariants -/

theorem History.induct {P : List (Move M) → State M → Prop} (hsta : P [] {})
    (hstep : ∀ moves move s s', History config moves s → P moves s → Step s move s' →
      P (moves ++ [move]) s') (h : History config moves s) : P moves s := by
  induction moves using List.reverseRecOn generalizing s with
  | nil =>
    cases h
    exact hsta
  | append_singleton moves move ih =>
    obtain ⟨s', hmoves, hmove⟩ := history_snoc.mp h
    exact hstep moves move s' s hmoves (ih hmoves) (step_spec hmove)

/-- What the worker's stage says about the rest of the state. -/
structure StageKept (s : State M) : Prop where
  closed : s.closed = true → s.clearing = [] ∧ s.counting = []
  draining : s.worker.Draining → s.closed = true
  unflagged : s.gap = some .calling ∨ s.gap = some .marking → s.overflow.gapPersisted = false

theorem stage_kept (h : History config moves s) : StageKept s := by
  refine h.induct (P := fun _ s => StageKept s) ⟨nofun, nofun, nofun⟩ ?_
  clear h
  intro moves move s s' _ ⟨hcls, hdra, hunfl⟩ hstep
  cases hstep with
  | send => exact ⟨hcls, hdra, hunfl⟩
  | refuse hopen =>
    refine ⟨fun h => ?_, hdra, hunfl⟩
    cases hopen.symm.trans h
  | clear hcall =>
    refine ⟨fun h => ?_, hdra, fun _ => rfl⟩
    rw [(hcls h).1] at hcall
    cases hcall
  | count hcall =>
    refine ⟨fun h => ?_, hdra, hunfl⟩
    rw [(hcls h).2] at hcall
    cases hcall
  | close hcle hcoun => exact ⟨fun _ => ⟨hcle, hcoun⟩, fun _ => rfl, hunfl⟩
  | noDrops | drops | persisted | failed => exact ⟨hcls, hdra, nofun⟩
  | unpersisted _ hflag => exact ⟨hcls, hdra, fun _ => hflag⟩
  | succeeded hgap => exact ⟨hcls, hdra, fun _ => hunfl (.inl hgap)⟩
  | mark => exact ⟨hcls, hdra, nofun⟩
  | control _ hctl =>
    refine ⟨fun h => ?_, fun h => ?_, fun h => ?_⟩
    · rw [hctl.closed] at h
      rw [hctl.clearing, hctl.counting]
      exact hcls h
    · rw [hctl.closed]
      exact (hctl.draining h).elim hdra id
    · rcases hctl.gap with hgap | hgap
      all_goals
        rw [hgap] at h
        rcases h with h | h <;> cases h

/-- Every dropped message is counted, or about to be. -/
theorem refused_eq (h : History config moves s) :
    moves.countP Move.isRefuse = moves.countP Move.isCount + s.clearing.length + s.counting.length ∧
      s.overflow.droppedCount = .ofNat (moves.countP Move.isCount) := by
  refine h.induct (P := fun moves s => moves.countP Move.isRefuse =
    moves.countP Move.isCount + s.clearing.length + s.counting.length ∧
      s.overflow.droppedCount = .ofNat (moves.countP Move.isCount)) ⟨rfl, rfl⟩ ?_
  clear h
  intro moves move s s' _ ⟨href, hctd⟩ hstep
  rw [List.countP_append, List.countP_append]
  cases hstep with
  | refuse =>
    refine ⟨?_, hctd⟩
    simp only [List.countP_singleton, Move.isRefuse, Move.isCount, List.length_cons, href]
    simp
    omega
  | @clear call hcall =>
    refine ⟨?_, hctd⟩
    have hlen := List.length_erase_of_mem hcall
    have hpos := List.length_pos_of_mem hcall
    simp only [List.countP_singleton, Move.isRefuse, Move.isCount, List.length_cons, href, hlen]
    simp
    omega
  | @count call hcall =>
    have hlen := List.length_erase_of_mem hcall
    have hpos := List.length_pos_of_mem hcall
    simp only [List.countP_singleton, Move.isRefuse, Move.isCount, href, hlen, hctd]
    refine ⟨?_, ?_⟩
    · simp
      omega
    · simp [UInt64.ofNat_add]
  | @control move _ hmove hctl =>
    rw [hctl.overflow, hctl.clearing, hctl.counting]
    cases move with
    | take | stop | next | inserted => exact ⟨href, hctd⟩
    | _ => cases hmove
  | _ => exact ⟨href, hctd⟩

/-- The drop of a call is suppressed: no drop clears the flag after the flag update. -/
def Suppressed (moves : List (Move M)) (call : ℕ) : Prop :=
  ∃ before middle after, moves = before ++ .uncertain (.ok ()) :: (middle ++ .mark :: after) ∧
    .mark ∉ middle ∧ [.refuse call, .clear call].Sublist middle ∧ ∀ other, .clear other ∉ after

theorem Suppressed.snoc {call : ℕ} (h : Suppressed moves call) (hmove : ∀ other, move ≠ .clear other) :
    Suppressed (moves ++ [move]) call := by
  obtain ⟨before, middle, after, rfl, hmark, hcall, hclear⟩ := h
  refine ⟨before, middle, after ++ [move], by simp, hmark, hcall, fun other hmem => ?_⟩
  rcases List.mem_append.mp hmem with hmem | hmem
  · exact hclear other hmem
  · exact hmove other (List.mem_singleton.mp hmem).symm

theorem History.take {rest : List (Move M)} (h : History config (moves ++ rest) s) :
    ∃ s', History config moves s' := by
  rw [History, List.foldlM_append] at h
  obtain ⟨s', hmoves, -⟩ := Option.bind_eq_some_iff.mp h
  exact ⟨s', hmoves⟩

theorem refused_cleared (h : History config moves s) : ∀ before call after,
    moves = before ++ .refuse call :: after → call ∈ s.clearing ∨ .clear call ∈ after := by
  refine h.induct (P := fun moves s => ∀ before call after,
    moves = before ++ .refuse call :: after → call ∈ s.clearing ∨ .clear call ∈ after) (by simp) ?_
  clear h
  intro moves move s s' _ ih hstep before call after hspl
  rcases snoc_eq_split.mp hspl with ⟨-, rfl, -⟩ | ⟨rest, rfl, hrest⟩
  · cases hstep with
    | refuse => exact .inl List.mem_cons_self
    | control hmove => cases hmove
  · rcases ih before call rest hrest with hcall | hclear
    · cases hstep with
      | refuse => exact .inl (List.mem_cons_of_mem _ hcall)
      | @clear other =>
        rcases eq_or_ne call other with rfl | hne
        · exact .inr (List.mem_append_right _ (List.mem_singleton_self _))
        · exact .inl ((List.mem_erase_of_ne hne).mpr hcall)
      | control _ hctl => exact .inl (hctl.clearing ▸ hcall)
      | _ => exact .inl hcall
    · exact .inr (List.mem_append_left _ hclear)

section Calls

variable {before middle after : List (Move M)}

/-- Between the effect of a call and the flag update, the worker makes no call. -/
theorem unmarked (h : History config (before ++ .uncertain (.ok ()) :: middle) s)
    (hmark : .mark ∉ middle) : s.gap = some .marking ∧ ∀ answer, .uncertain answer ∉ middle := by
  induction middle using List.reverseRecOn generalizing s with
  | nil =>
    obtain ⟨s', -, hmove⟩ := history_snoc.mp h
    cases step_spec hmove with
    | succeeded => exact ⟨rfl, fun _ => List.not_mem_nil⟩
    | control hmove => cases hmove
  | append_singleton middle move ih =>
    rw [← List.cons_append, ← List.append_assoc] at h
    obtain ⟨s', hmoves, hmove⟩ := history_snoc.mp h
    obtain ⟨hgap, hnone⟩ := ih hmoves fun hmem => hmark (List.mem_append_left _ hmem)
    have hkept : s.gap = s'.gap ∧ ∀ answer, .uncertain answer ≠ move := by
      cases step_spec hmove with
      | send | refuse | clear | count | close => exact ⟨rfl, nofun⟩
      | mark => exact absurd (List.mem_append_right _ (List.mem_singleton_self _)) hmark
      | noDrops hgap' | drops hgap' | persisted hgap' | unpersisted hgap' | succeeded hgap'
      | failed hgap' =>
        rw [hgap] at hgap'
        cases hgap'
      | control _ hctl => cases hgap.symm.trans hctl.idle
    refine ⟨hkept.1.trans hgap, fun answer hmem => ?_⟩
    rcases List.mem_append.mp hmem with hmem | hmem
    · exact hnone answer hmem
    · exact hkept.2 answer (List.mem_singleton.mp hmem)

/-- As long as no drop clears the flag after it was set, the worker makes no call. -/
theorem after_mark (h : History config (before ++ .mark :: after) s)
    (hclear : ∀ call, .clear call ∉ after) : s.overflow.gapPersisted = true ∧
      (s.gap = none ∨ s.gap = some .loadCount ∨ s.gap = some .loadFlag) ∧
        ∀ answer, .uncertain answer ∉ after := by
  induction after using List.reverseRecOn generalizing s with
  | nil =>
    obtain ⟨s', -, hmove⟩ := history_snoc.mp h
    cases step_spec hmove with
    | mark => exact ⟨rfl, .inl rfl, fun _ => List.not_mem_nil⟩
    | control hmove => cases hmove
  | append_singleton after move ih =>
    rw [← List.cons_append, ← List.append_assoc] at h
    obtain ⟨s', hmoves, hmove⟩ := history_snoc.mp h
    obtain ⟨hflag, hgap, hnone⟩ := ih hmoves fun call hmem => hclear call (List.mem_append_left _ hmem)
    have hkept : s.overflow.gapPersisted = true ∧
        (s.gap = none ∨ s.gap = some .loadCount ∨ s.gap = some .loadFlag) ∧
          ∀ answer, .uncertain answer ≠ move := by
      cases step_spec hmove with
      | send | refuse | count | close => exact ⟨hflag, hgap, nofun⟩
      | clear => exact absurd (List.mem_append_right _ (List.mem_singleton_self _)) (hclear _)
      | noDrops | persisted => exact ⟨hflag, .inl rfl, nofun⟩
      | drops => exact ⟨hflag, .inr (.inr rfl), nofun⟩
      | unpersisted _ hunfl => cases hflag.symm.trans hunfl
      | succeeded hgap' | failed hgap' | mark hgap' =>
        rw [hgap'] at hgap
        rcases hgap with hgap | hgap | hgap <;> cases hgap
      | control hmove hctl =>
        refine ⟨hctl.overflow ▸ hflag, hctl.gap.imp_right .inl, ?_⟩
        rintro answer rfl
        cases hmove
    refine ⟨hkept.1, hkept.2.1, fun answer hmem => ?_⟩
    rcases List.mem_append.mp hmem with hmem | hmem
    · exact hnone answer hmem
    · exact hkept.2.2 answer (List.mem_singleton.mp hmem)

end Calls

/-- Before the flag update, a call has succeeded. -/
theorem marking_called (h : History config moves s) : s.gap = some .marking →
    ∃ before middle, moves = before ++ .uncertain (.ok ()) :: middle ∧ .mark ∉ middle := by
  refine h.induct (P := fun moves s => s.gap = some .marking → ∃ before middle,
    moves = before ++ .uncertain (.ok ()) :: middle ∧ .mark ∉ middle) nofun ?_
  clear h
  intro moves move s s' _ ih hstep hgap
  have hkept : s.gap = some .marking → move ≠ .mark → ∃ before middle,
      moves ++ [move] = before ++ .uncertain (.ok ()) :: middle ∧ .mark ∉ middle := by
    intro hmarking hmove
    obtain ⟨before, middle, rfl, hmark⟩ := ih hmarking
    refine ⟨before, middle ++ [move], by simp, fun hmem => ?_⟩
    rcases List.mem_append.mp hmem with hmem | hmem
    · exact hmark hmem
    · exact hmove (List.mem_singleton.mp hmem).symm
  cases hstep with
  | succeeded => exact ⟨moves, [], rfl, List.not_mem_nil⟩
  | send | refuse | clear | count | close => exact hkept hgap nofun
  | noDrops | drops | persisted | unpersisted | failed | mark => cases hgap
  | control _ hctl =>
    rcases hctl.gap with hnone | hload
    · cases hnone.symm.trans hgap
    · cases hload.symm.trans hgap

/-- What has become of a dropped message. -/
theorem dropped_cases (h : History config moves s) : ∀ before call after,
    moves = before ++ .refuse call :: after → .uncertain (.ok ()) ∈ after ∨ call ∈ s.clearing ∨
      s.overflow.gapPersisted = false ∨ ∃ other, Suppressed moves other := by
  refine h.induct (P := fun moves s => ∀ before call after, moves = before ++ .refuse call :: after →
    .uncertain (.ok ()) ∈ after ∨ call ∈ s.clearing ∨ s.overflow.gapPersisted = false ∨
      ∃ other, Suppressed moves other) (by simp) ?_
  clear h
  intro moves move s s' hmoves ih hstep before call after hspl
  rcases snoc_eq_split.mp hspl with ⟨-, rfl, -⟩ | ⟨rest, rfl, hrest⟩
  · cases hstep with
    | refuse => exact .inr (.inl List.mem_cons_self)
    | control hmove => cases hmove
  · rcases ih before call rest hrest with hcov | hcase
    · exact .inl (List.mem_append_left _ hcov)
    by_cases hcov : .uncertain (.ok ()) ∈ rest
    · exact .inl (List.mem_append_left _ hcov)
    have hkept : (∀ other, move ≠ .clear other) → (∃ other, Suppressed moves other) →
        ∃ other, Suppressed (moves ++ [move]) other := fun hmove ⟨other, hoth⟩ =>
      ⟨other, hoth.snoc hmove⟩
    cases hstep with
    | clear => exact .inr (.inr (.inl rfl))
    | succeeded => exact .inl (List.mem_append_right _ (List.mem_singleton_self _))
    | refuse => exact .inr (hcase.imp (List.mem_cons_of_mem _) (Or.imp_right (hkept nofun)))
    | mark hgap =>
      rcases refused_cleared hmoves before call rest hrest with hcall | hclear
      · exact .inr (.inl hcall)
      · -- the call took effect before the drop, whose flag is now overwritten
        obtain ⟨first, middle, hfst, hmark⟩ := marking_called hmoves hgap
        obtain ⟨between, hbef, hmid⟩ : ∃ between, before = first ++ .uncertain (.ok ()) :: between ∧
            middle = between ++ .refuse call :: rest := by
          rcases List.append_eq_append_iff.mp (hfst.symm.trans hrest) with
            ⟨between, hbef, hbetw⟩ | ⟨between, -, hbetw⟩
          · cases between with
            | nil => cases hbetw
            | cons called between =>
              obtain ⟨rfl, hmid⟩ := List.cons.inj hbetw
              exact ⟨between, hbef, hmid⟩
          · cases between with
            | nil => cases hbetw
            | cons refused between =>
              obtain ⟨-, rfl⟩ := List.cons.inj hbetw
              exact absurd (List.mem_append_right _ List.mem_cons_self) hcov
        refine .inr (.inr (.inr ⟨call, first, middle, [], by rw [hfst]; simp, hmark, ?_, by simp⟩))
        rw [hmid]
        refine List.Sublist.trans ?_ (List.sublist_append_right _ _)
        exact (List.singleton_sublist.mpr hclear).cons_cons _
    | control hmove hctl =>
      rw [hctl.clearing, hctl.overflow]
      refine .inr (hcase.imp_right (Or.imp_right (hkept ?_)))
      rintro other rfl
      cases hmove
    | _ => exact .inr (hcase.imp_right (Or.imp_right (hkept nofun)))

/-- The last `persist_overflow_gap` has left nothing to persist, or its call has failed. -/
theorem ended_settled (h : History config moves s) : s.worker = .ended → s.gap = none →
    s.overflow.droppedCount = 0 ∨ s.overflow.gapPersisted = true ∨
      ∃ before error after, moves = before ++ .uncertain (.error error) :: after ∧
        ∀ answer, .uncertain answer ∉ after := by
  refine h.induct (P := fun moves s => s.worker = .ended → s.gap = none →
    s.overflow.droppedCount = 0 ∨ s.overflow.gapPersisted = true ∨
      ∃ before error after, moves = before ++ .uncertain (.error error) :: after ∧
        ∀ answer, .uncertain answer ∉ after) nofun ?_
  clear h
  intro moves move s s' hmoves ih hstep hend hgap
  have hkept : (∀ answer, .uncertain answer ≠ move) → (∃ before error after,
      moves = before ++ .uncertain (.error error) :: after ∧ ∀ answer, .uncertain answer ∉ after) →
        ∃ before error after, moves ++ [move] = before ++ .uncertain (.error error) :: after ∧
          ∀ answer, .uncertain answer ∉ after := by
    rintro hmove ⟨before, error, after, rfl, hnone⟩
    refine ⟨before, error, after ++ [move], by simp, fun answer hmem => ?_⟩
    rcases List.mem_append.mp hmem with hmem | hmem
    · exact hnone answer hmem
    · exact hmove answer (List.mem_singleton.mp hmem)
  have hdone : s.worker = .ended → s.clearing = [] ∧ s.counting = [] := fun hwkr =>
    (stage_kept hmoves).closed ((stage_kept hmoves).draining (by rw [hwkr]; trivial))
  cases hstep with
  | send | refuse | close => exact (ih hend hgap).imp_right (Or.imp_right (hkept nofun))
  | clear hcall =>
    rw [(hdone hend).1] at hcall
    cases hcall
  | count hcall =>
    rw [(hdone hend).2] at hcall
    cases hcall
  | noDrops _ hcnt => exact .inl hcnt
  | drops | unpersisted | succeeded => cases hgap
  | persisted _ hflag => exact .inr (.inl hflag)
  | @failed error => exact .inr (.inr ⟨moves, error, [], rfl, fun _ => List.not_mem_nil⟩)
  | mark => exact .inr (.inl rfl)
  | control _ hctl => cases hgap.symm.trans (hctl.ended hend)

/-- In the whole life of a connection whose last call succeeds, and with fewer drops than the counter
can count, every dropped message is covered unless a drop is suppressed. -/
theorem drops_covered_iff (h : History config moves s) (hfinished : s.finished = true)
    (hlast : LastCallSucceeds moves) (hcount : moves.countP Move.isRefuse < 2 ^ 64) :
    DropsCovered moves ↔ NoneSuppressed moves := by
  constructor
  · intro hcov before middle after hspl hmark ⟨call, hcall⟩
    by_contra hnone
    have hclear : ∀ call, .clear call ∉ after := fun call hmem => hnone ⟨call, hmem⟩
    obtain ⟨first, rest, rfl⟩ := List.append_of_mem (hcall.subset List.mem_cons_self)
    have hwhole : moves = (before ++ .uncertain (.ok ()) :: first) ++ .refuse call ::
        (rest ++ .mark :: after) := by
      rw [hspl]
      simp
    have hmarked : moves = (before ++ .uncertain (.ok ()) :: (first ++ .refuse call :: rest)) ++
        .mark :: after := by
      rw [hspl]
      simp
    obtain ⟨s', hcalled⟩ := (hmarked ▸ h).take
    rcases List.mem_append.mp (hcov _ _ _ hwhole) with hmem | hmem
    · exact (unmarked hcalled hmark).2 _ (List.mem_append_right _ (List.mem_cons_of_mem _ hmem))
    · rcases List.mem_cons.mp hmem with hmem | hmem
      · cases hmem
      · exact (after_mark (hmarked ▸ h) hclear).2.2 _ hmem
  · intro hnone before call after hspl
    obtain ⟨hgap, hwkr⟩ := finished_iff.mp hfinished
    obtain ⟨hcle, hcoun⟩ :=
      (stage_kept h).closed ((stage_kept h).draining (by rw [hwkr]; trivial))
    rcases dropped_cases h before call after hspl with hcov | hcall | hflag | ⟨other, hoth⟩
    · exact hcov
    · rw [hcle] at hcall
      cases hcall
    · rcases ended_settled h hwkr hgap with hzero | hflag' | ⟨first, error, rest, hfail, hrest⟩
      · obtain ⟨href, hctd⟩ := refused_eq h
        have hpos : 0 < moves.countP Move.isRefuse :=
          List.countP_pos_iff.mpr ⟨.refuse call, by rw [hspl]; simp, rfl⟩
        rw [hcle, hcoun] at href
        have hmod : moves.countP Move.isRefuse % 2 ^ 64 = 0 := by
          have := congrArg UInt64.toNat (hctd.symm.trans hzero)
          simpa [href] using this
        rw [Nat.mod_eq_of_lt hcount] at hmod
        exact absurd hmod hpos.ne'
      · cases hflag.symm.trans hflag'
      · cases hlast first (.error error) rest hfail hrest
    · obtain ⟨first, middle, rest, hmoves, hmark, hsub, hclear⟩ := hoth
      obtain ⟨later, hlater⟩ := hnone first middle rest hmoves hmark ⟨other, hsub⟩
      exact absurd hlater (hclear later)

/-! ## Scripted histories -/

section Scripted

/-- One message fits into the queue, and into a batch. -/
def small : IngestionConfig := ⟨1, 1⟩

/-- The first message is taken and waits in its batch; the second one fills the queue. -/
def filled : List (Move ℕ) := [.look, .send 1, .take, .send 2]

def dropped (call : ℕ) : List (Move ℕ) := [.refuse call, .clear call, .count call]

/-- The call that persists the gap takes effect, while `during` happens. -/
def persisting (during : List (Move ℕ)) : List (Move ℕ) :=
  [.look, .look, .uncertain (.ok ())] ++ during ++ [.mark]

/-- The batch is stored, and the second message follows; the channel is closed. -/
def drained : List (Move ℕ) :=
  [.inserted (.ok ()), .next, .look, .look, .take, .stop, .next, .look, .look, .inserted (.ok ()), .next,
    .close, .look, .look, .stop, .stop, .look, .look]

/-- A message is dropped before the gap is persisted. -/
def coveredDrop : List (Move ℕ) := filled ++ dropped 7 ++ [.stop, .next] ++ persisting [] ++ drained

/-- Another message is dropped while the gap is persisted. -/
def suppressedDrop : List (Move ℕ) :=
  filled ++ dropped 7 ++ [.stop, .next] ++ persisting (dropped 8) ++ drained

/-- What is left after `count` messages were dropped. -/
def afterDrops (count : UInt64) : State ℕ where
  overflow := ⟨count, true⟩
  closed := true
  gap := none
  worker := .ended

theorem lastCallSucceeds_of_all (h : ∀ answer, .uncertain answer ∈ moves → answer = .ok ()) :
    LastCallSucceeds moves := by
  intro before answer after hspl _
  refine h answer ?_
  rw [hspl]
  exact List.mem_append_right _ List.mem_cons_self

theorem drops_covered_iff_coveredDrop :
    coveredDrop.countP Move.isRefuse = 1 ∧ (DropsCovered coveredDrop ↔ NoneSuppressed coveredDrop) := by
  have hhistory : History small coveredDrop (afterDrops 1) := by decide
  have hlast : LastCallSucceeds coveredDrop := lastCallSucceeds_of_all (by
    simp [coveredDrop, filled, dropped, persisting, drained])
  exact ⟨rfl, drops_covered_iff hhistory rfl hlast (by decide)⟩

/-- The second drop clears the flag between the effect of the call and the flag update: the gap
counts as persisted, and nothing marks the connection as uncertain after the drop. -/
theorem drop_behind_persisted_gap : History small suppressedDrop (afterDrops 2) ∧
    (afterDrops 2).finished = true ∧ LastCallSucceeds suppressedDrop ∧ ¬ DropsCovered suppressedDrop := by
  refine ⟨by decide, rfl, lastCallSucceeds_of_all ?_, fun h => ?_⟩
  · simp [suppressedDrop, filled, dropped, persisting, drained]
  · have hcov := h (suppressedDrop.take 12) 8 (suppressedDrop.drop 13) (by decide)
    revert hcov
    decide

end Scripted

end ServerRS.Ingestion

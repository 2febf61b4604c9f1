import Mathlib.Data.List.Nodup

/-!
# Fencing tokens

A machine some of whose statements issue a token. `valid` says which tokens are honoured; a
statement makes no token valid but the one it issues. Where no token is issued twice, a
token that was honoured and is not any more never is again (`Fenced.stale`), whatever the
statements are and whoever gives them.
-/

namespace ServerRS.Lib

/-- A machine with fencing tokens. -/
structure Fenced (σ ι τ : Type) where
  step : ι → σ → σ
  issues : ι → Option τ
  valid : σ → τ → Prop
  valid_step : ∀ {i s t}, valid (step i s) t → valid s t ∨ issues i = some t

namespace Fenced

variable {σ ι τ : Type} (machine : Fenced σ ι τ) {s : σ} {t : τ} {before middle after : List ι}

/-- The state after a list of statements. -/
def run (s : σ) (statements : List ι) : σ := statements.foldl (fun s i => machine.step i s) s

@[simp] theorem run_cons {i : ι} : machine.run s (i :: after) = machine.run (machine.step i s) after :=
  rfl

theorem run_append : machine.run s (before ++ after) = machine.run (machine.run s before) after :=
  List.foldl_append

def issued (statements : List ι) : List τ := statements.filterMap machine.issues

/-- A token that is honoured was honoured before, or has been issued since. -/
theorem valid_run (h : machine.valid (machine.run s after) t) :
    machine.valid s t ∨ t ∈ machine.issued after := by
  induction after generalizing s with
  | nil => exact .inl h
  | cons i after ih =>
    rw [run_cons] at h
    rcases ih h with hval | hissued
    · rcases machine.valid_step hval with hval | hiss
      · exact .inl hval
      · exact .inr (List.mem_filterMap.mpr ⟨i, List.mem_cons_self, hiss⟩)
    · obtain ⟨j, hj, hiss⟩ := List.mem_filterMap.mp hissued
      exact .inr (List.mem_filterMap.mpr ⟨j, List.mem_cons_of_mem i hj, hiss⟩)

/-- A token that has lost its validity does not get it back. -/
theorem stale (hsta : ¬ machine.valid s t)
    (hfr : (machine.issued (before ++ middle ++ after)).Nodup)
    (hval : machine.valid (machine.run s before) t)
    (hend : ¬ machine.valid (machine.run s (before ++ middle)) t) :
    ¬ machine.valid (machine.run s (before ++ middle ++ after)) t := by
  intro hagain
  have hbef : t ∈ machine.issued before := (machine.valid_run hval).resolve_left hsta
  rw [run_append] at hagain
  have haft : t ∈ machine.issued after := (machine.valid_run hagain).resolve_left hend
  -- issued on both sides of the moment at which it was not honoured
  rw [issued, List.filterMap_append, List.filterMap_append] at hfr
  exact List.disjoint_of_nodup_append hfr (List.mem_append_left _ hbef) haft

end Fenced

end ServerRS.Lib

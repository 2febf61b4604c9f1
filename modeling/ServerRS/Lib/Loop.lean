import Mathlib.Logic.Function.Iterate

/-!
# Loops that count down

A loop is a step that is taken again and again. What a step keeps, the loop keeps
(`iterate_invariant`); a loop that always comes to a state of smaller measure ends
(`iterate_ends`). What a loop does before it goes on may itself wait, for an answer that comes after
finitely many steps (`Eventually`).
-/

namespace ServerRS.Lib

variable {σ : Type} {step : σ → σ} {Inv Done Good : σ → Prop} {s : σ}

theorem iterate_invariant (hstep : ∀ s, Inv s → Inv (step s)) (hs : Inv s) (n : ℕ) :
    Inv (step^[n] s) := by
  induction n with
  | zero => exact hs
  | succ n ih =>
    rw [Function.iterate_succ_apply']
    exact hstep _ ih

/-- A state from which the steps lead to a good one. -/
inductive Eventually (step : σ → σ) (Good : σ → Prop) : σ → Prop where
  | now {s : σ} (h : Good s) : Eventually step Good s
  | later {s : σ} (h : Eventually step Good (step s)) : Eventually step Good s

theorem Eventually.exists_iterate (h : Eventually step Good s) : ∃ n, Good (step^[n] s) := by
  induction h with
  | now h => exact ⟨0, h⟩
  | later _ ih =>
    obtain ⟨n, hn⟩ := ih
    exact ⟨n + 1, hn⟩

/-- A loop ends that from every other state comes to one of smaller measure. -/
theorem iterate_ends (measure : σ → ℕ) (hstep : ∀ s, Inv s → Inv (step s))
    (hless : ∀ s, Inv s → ¬Done s → Eventually step (fun t => measure t < measure s) s)
    (hs : Inv s) : ∃ n, Done (step^[n] s) := by
  induction hsize : measure s using Nat.strongRecOn generalizing s with
  | ind size ih =>
    by_cases hdone : Done s
    · exact ⟨0, hdone⟩
    · obtain ⟨k, hk⟩ := (hless s hs hdone).exists_iterate
      obtain ⟨n, hn⟩ := ih _ (hsize ▸ hk) (iterate_invariant hstep hs k) rfl
      refine ⟨n + k, ?_⟩
      rw [Function.iterate_add_apply]
      exact hn

end ServerRS.Lib

import Mathlib.Logic.Relation

/-!
# Runs of a transition relation

`Reachable init step s` says that some run leads from an initial state to `s`. A
property of every run is proved once, by `Reachable.invariant`: it holds
initially and each step preserves it. `Guarded ok step` keeps the steps that are
taken from a state that satisfies `ok`; its runs are the runs that meet the
condition `ok` at every step.
-/

namespace ServerRS.Lib

variable {σ : Type} {init ok : σ → Prop} {step : σ → σ → Prop} {s t : σ}

/-- The steps of `step` from the states that satisfy `ok`. -/
def Guarded (ok : σ → Prop) (step : σ → σ → Prop) (s t : σ) : Prop :=
  ok s ∧ step s t

/-- `s` is reached by a run from an initial state. -/
def Reachable (init : σ → Prop) (step : σ → σ → Prop) (s : σ) : Prop :=
  ∃ s₀, init s₀ ∧ Relation.ReflTransGen step s₀ s

/-- What one step preserves, every run preserves. -/
theorem run_invariant (Inv : σ → Prop) (hstep : ∀ s t, Inv s → step s t → Inv t)
    (hrun : Relation.ReflTransGen step s t) (hs : Inv s) : Inv t := by
  induction hrun with
  | refl => exact hs
  | tail _ h ih => exact hstep _ _ ih h

namespace Reachable

theorem initial (h : init s) : Reachable init step s := ⟨s, h, .refl⟩

theorem extend (h : Reachable init step s) (hst : Relation.ReflTransGen step s t) :
    Reachable init step t := by
  obtain ⟨s₀, h₀, hrun⟩ := h
  exact ⟨s₀, h₀, hrun.trans hst⟩

theorem tail (h : Reachable init step s) (hst : step s t) : Reachable init step t :=
  h.extend (.single hst)

/-- The rule of invariants: `Inv` holds initially and is preserved. -/
theorem invariant (h : Reachable init step s) (Inv : σ → Prop) (hinit : ∀ s, init s → Inv s)
    (hstep : ∀ s t, Inv s → step s t → Inv t) : Inv s := by
  obtain ⟨s₀, h₀, hrun⟩ := h
  exact run_invariant Inv hstep hrun (hinit s₀ h₀)

end Reachable

end ServerRS.Lib

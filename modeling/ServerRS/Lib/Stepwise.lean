import Mathlib.Data.List.Basic

/-!
# Computations that may be cut off

`Stepwise σ ε α` is the meaning of code that works on a state which outlives it, such as
the files a process writes. Besides a result and a last state it says which states the
computation went through: being cut off leaves one of these.

`wp x C Q E s` is the precondition of `x` with three conditions: `C` on the states in
between, `Q` on what it returns, `E` on how it aborts.
-/

namespace ServerRS.Lib

/-- What a computation did: its result, the state it left, and the states it went through
after its first operation, in order. -/
structure Trail (σ ε α : Type) where
  result : Except ε α
  state : σ
  via : List σ

/-- A computation over the state `σ` that returns an `α` or aborts with an `ε`. -/
def Stepwise (σ ε α : Type) := σ → Trail σ ε α

namespace Stepwise

variable {σ ε α β : Type}

instance : Monad (Stepwise σ ε) where
  pure a := fun s => ⟨.ok a, s, []⟩
  bind x f := fun s =>
    match x s with
    | ⟨.ok a, s', via⟩ => ⟨(f a s').result, (f a s').state, via ++ (f a s').via⟩
    | ⟨.error e, s', via⟩ => ⟨.error e, s', via⟩

/-- The current state. -/
def get : Stepwise σ ε σ := fun s => ⟨.ok s, s, []⟩

/-- Abort with `e`. -/
def throw (e : ε) : Stepwise σ ε α := fun s => ⟨.error e, s, []⟩

/-- A computation without state effects. -/
def ofExcept (r : Except ε α) : Stepwise σ ε α := fun s => ⟨r, s, []⟩

/-- A single operation; cut off half-way it leaves one of `during s`. -/
def op (during : σ → List σ) (f : σ → σ) : Stepwise σ ε Unit := fun s =>
  ⟨.ok (), f s, during s ++ [f s]⟩

/-- An operation that cannot be seen half-done. -/
def atomic (f : σ → σ) : Stepwise σ ε Unit := op (fun _ => []) f

/-- The states that a computation from `s` may leave behind when it is cut off. -/
def points (x : Stepwise σ ε α) (s : σ) : List σ := s :: (x s).via

/-- The computation on a part of the state. -/
def zoom {τ : Type} (view : τ → σ) (put : σ → τ → τ) (x : Stepwise σ ε α) : Stepwise τ ε α := fun s =>
  ⟨(x (view s)).result, put (x (view s)).state s, (x (view s)).via.map fun t => put t s⟩

/-- The computation with its errors renamed. -/
def mapError {δ : Type} (f : ε → δ) (x : Stepwise σ ε α) : Stepwise σ δ α := fun s =>
  ⟨(x s).result.mapError f, (x s).state, (x s).via⟩

/-- The computation, with its result known to be one. -/
def attach (x : Stepwise σ ε α) : Stepwise σ ε {a // ∃ s, (x s).result = .ok a} := fun s =>
  match h : x s with
  | ⟨.ok a, s', via⟩ => ⟨.ok ⟨a, s, by rw [h]⟩, s', via⟩
  | ⟨.error e, s', via⟩ => ⟨.error e, s', via⟩

@[simp] theorem pure_apply (a : α) (s : σ) : (pure a : Stepwise σ ε α) s = ⟨.ok a, s, []⟩ := rfl

theorem bind_apply (x : Stepwise σ ε α) (f : α → Stepwise σ ε β) (s : σ) :
    (x >>= f) s =
      match x s with
      | ⟨.ok a, s', via⟩ => ⟨(f a s').result, (f a s').state, via ++ (f a s').via⟩
      | ⟨.error e, s', via⟩ => ⟨.error e, s', via⟩ := rfl

variable {x : Stepwise σ ε α} {f : α → Stepwise σ ε β} {a : α} {Q' : α → σ → Prop}
  {E' : ε → σ → Prop}

/-- A first statement that only reads is done once its result is known. -/
theorem bind_of_pure {s : σ} (h : x s = ⟨.ok a, s, []⟩) : (x >>= f) s = f a s := by
  rw [bind_apply, h]
  rfl

@[simp] theorem get_bind_apply (f : σ → Stepwise σ ε β) (s : σ) :
    ((get : Stepwise σ ε σ) >>= f) s = f s s := rfl

@[simp] theorem throw_apply (e : ε) (s : σ) :
    (throw e : Stepwise σ ε α) s = ⟨.error e, s, []⟩ := rfl

@[simp] theorem ok_bind_apply (a : α) (f : α → Stepwise σ ε β) (s : σ) :
    ((ofExcept (.ok a) : Stepwise σ ε α) >>= f) s = f a s := rfl

@[simp] theorem pure_bind_apply (a : α) (f : α → Stepwise σ ε β) (s : σ) :
    ((pure a : Stepwise σ ε α) >>= f) s = f a s := rfl

/-! ## Preconditions -/

/-- From `s`, the computation goes through states in `C` only; it returns into `Q` or
aborts into `E`. -/
def wp (x : Stepwise σ ε α) (C : σ → Prop) (Q : α → σ → Prop) (E : ε → σ → Prop) (s : σ) : Prop :=
  (∀ t ∈ (x s).via, C t) ∧
    match (x s).result with
    | .ok a => Q a (x s).state
    | .error e => E e (x s).state

variable {C : σ → Prop} {Q : α → σ → Prop} {E : ε → σ → Prop} {s : σ}

theorem wp_pure (h : Q a s) : wp (pure a) C Q E s := ⟨by simp, h⟩

theorem wp_throw {e : ε} (h : E e s) : wp (throw e : Stepwise σ ε α) C Q E s := ⟨by simp, h⟩

theorem wp_ofExcept {r : Except ε α} (hok : ∀ a, r = .ok a → Q a s)
    (herr : ∀ e, r = .error e → E e s) : wp (ofExcept r) C Q E s := by
  refine ⟨by simp [ofExcept], ?_⟩
  cases r with
  | ok a => exact hok a rfl
  | error e => exact herr e rfl

theorem wp_bind {R : β → σ → Prop} (h : wp x C (fun a s' => wp (f a) C R E s') E s) :
    wp (x >>= f) C R E s := by
  obtain ⟨hvia, hres⟩ := h
  unfold wp
  rw [bind_apply]
  -- the two ways through the first statement
  generalize x s = trail at hvia hres
  obtain ⟨r, s', via⟩ := trail
  cases r with
  | error e => exact ⟨hvia, hres⟩
  | ok a =>
    refine ⟨fun t ht => ?_, hres.2⟩
    rcases List.mem_append.mp ht with ht | ht
    · exact hvia t ht
    · exact hres.1 t ht

theorem wp_op {during : σ → List σ} {f : σ → σ} {Q : Unit → σ → Prop}
    (hduring : ∀ t ∈ during s, C t) (hdone : C (f s)) (h : Q () (f s)) :
    wp (op during f : Stepwise σ ε Unit) C Q E s := by
  refine ⟨fun t ht => ?_, h⟩
  rcases List.mem_append.mp ht with ht | ht
  · exact hduring t ht
  · cases List.mem_singleton.mp ht
    exact hdone

theorem wp_atomic {f : σ → σ} {Q : Unit → σ → Prop} (hdone : C (f s)) (h : Q () (f s)) :
    wp (atomic f : Stepwise σ ε Unit) C Q E s := wp_op (by simp) hdone h

theorem wp_get_bind {f : σ → Stepwise σ ε α} (h : wp (f s) C Q E s) :
    wp (get >>= f) C Q E s := h

/-- Only what the computation does from `s` counts. -/
theorem wp_congr {y : Stepwise σ ε α} (hxy : x s = y s) (h : wp y C Q E s) : wp x C Q E s := by
  unfold wp
  rw [hxy]
  exact h

/-- A computation that changes nothing. -/
theorem wp_of_pure (hx : x s = ⟨.ok a, s, []⟩) (h : Q a s) : wp x C Q E s := by
  unfold wp
  rw [hx]
  exact ⟨by simp, h⟩

theorem wp_mono {C' : σ → Prop} (h : wp x C Q E s) (hC : ∀ t, C t → C' t)
    (hQ : ∀ a t, Q a t → Q' a t) (hE : ∀ e t, E e t → E' e t) : wp x C' Q' E' s := by
  refine ⟨fun t ht => hC t (h.1 t ht), ?_⟩
  have hres := h.2
  cases hr : (x s).result with
  | ok a =>
    rw [hr] at hres
    exact hQ _ _ hres
  | error e =>
    rw [hr] at hres
    exact hE _ _ hres

theorem wp_and {C' : σ → Prop} (h : wp x C Q E s) (h' : wp x C' Q' E' s) :
    wp x (fun t => C t ∧ C' t) (fun a t => Q a t ∧ Q' a t) (fun e t => E e t ∧ E' e t) s := by
  refine ⟨fun t ht => ⟨h.1 t ht, h'.1 t ht⟩, ?_⟩
  have hres := h.2
  have hres' := h'.2
  cases hr : (x s).result with
  | ok a =>
    rw [hr] at hres hres'
    exact ⟨hres, hres'⟩
  | error e =>
    rw [hr] at hres hres'
    exact ⟨hres, hres'⟩

theorem wp_zoom {τ : Type} {view : τ → σ} {put : σ → τ → τ} {C : τ → Prop} {Q : α → τ → Prop}
    {E : ε → τ → Prop} {s : τ}
    (h : wp x (fun t => C (put t s)) (fun a t => Q a (put t s)) (fun e t => E e (put t s)) (view s)) :
    wp (zoom view put x) C Q E s := by
  refine ⟨fun t ht => ?_, h.2⟩
  obtain ⟨t', ht', rfl⟩ := List.mem_map.mp ht
  exact h.1 t' ht'

theorem wp_mapError {δ : Type} {f : ε → δ} {E : δ → σ → Prop}
    (h : wp x C Q (fun e t => E (f e) t) s) : wp (mapError f x) C Q E s := by
  refine ⟨h.1, ?_⟩
  have hres := h.2
  rw [mapError]
  cases hr : (x s).result with
  | ok a =>
    rw [hr] at hres
    exact hres
  | error e =>
    rw [hr] at hres
    exact hres

theorem wp_attach (h : wp x C Q E s) : wp x.attach C (fun a => Q a.1) E s := by
  unfold wp at h ⊢
  rw [attach]
  split
  · next hx =>
    rw [hx] at h
    exact h
  · next hx =>
    rw [hx] at h
    exact h

/-! ### What a precondition says about a run -/

/-- Wherever the computation is cut off, `C` holds. -/
theorem wp_points (h : wp x C Q E s) (hs : C s) : ∀ t ∈ points x s, C t := by
  intro t ht
  rcases List.mem_cons.mp ht with rfl | ht
  · exact hs
  · exact h.1 t ht

/-- What a computation that does not return may leave behind: it is cut off, or aborts. -/
def Leaves (x : Stepwise σ ε α) (s t : σ) : Prop :=
  t ∈ points x s ∨ ∃ e, (x s).result = .error e ∧ (x s).state = t

theorem wp_ok (h : wp x C Q E s) (hx : (x s).result = .ok a) : Q a (x s).state := by
  have hres := h.2
  rw [hx] at hres
  exact hres

theorem wp_error {e : ε} (h : wp x C Q E s) (hx : (x s).result = .error e) : E e (x s).state := by
  have hres := h.2
  rw [hx] at hres
  exact hres

/-- The states in which a computation may be found: it is cut off, or it has ended. -/
def Reaches (x : Stepwise σ ε α) (s t : σ) : Prop := t ∈ points x s ∨ t = (x s).state

/-- The rule for every state in which a computation may be found. -/
theorem wp_reaches (h : wp x C Q E s) (hs : C s) (hQ : ∀ a t, Q a t → C t) (hE : ∀ e t, E e t → C t)
    {t : σ} (ht : Reaches x s t) : C t := by
  rcases ht with ht | rfl
  · exact wp_points h hs t ht
  · cases hr : (x s).result with
    | ok a => exact hQ a _ (wp_ok h hr)
    | error e => exact hE e _ (wp_error h hr)

/-- The rule for a computation that does not return. -/
theorem wp_leaves (h : wp x C Q E s) (hs : C s) (hE : ∀ e t, E e t → C t) {t : σ}
    (ht : Leaves x s t) : C t := by
  rcases ht with ht | ⟨e, he, rfl⟩
  · exact wp_points h hs t ht
  · exact hE e _ (wp_error h he)

end Stepwise

end ServerRS.Lib

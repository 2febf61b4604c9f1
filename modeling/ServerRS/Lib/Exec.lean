import Mathlib.Logic.Basic

/-!
# Computations that may abort, over a mutable state

`Exec σ ε α` is the meaning of code that reads and writes a state `σ` and either
returns an `α` or aborts with an `ε`. The writes made before an abort stay: a
`?` in the source leaves whatever was already written in place. Rolling back is
something a caller has to do on purpose (`Exec.atomic`).

A finished computation is taken apart with the inversions `bind_eq`, `mapError_eq_error`
and `zoom_eq`, one statement at a time. `Independent put x` is the frame property of
`x`: it does not depend on, and does not change, what `put` overwrites.
-/

namespace ServerRS.Lib

/-- A computation over the state `σ` that returns an `α` or aborts with an `ε`. -/
def Exec (σ ε α : Type) := σ → Except ε α × σ

namespace Exec

variable {σ τ ε ε' α β γ : Type}

instance : Monad (Exec σ ε) where
  pure a := fun s => (.ok a, s)
  bind x f := fun s =>
    match x s with
    | (.ok a, s') => f a s'
    | (.error e, s') => (.error e, s')

/-- The current state. -/
def get : Exec σ ε σ := fun s => (.ok s, s)

/-- Update the state. -/
def modify (f : σ → σ) : Exec σ ε Unit := fun s => (.ok (), f s)

/-- Abort with `e`. -/
def throw (e : ε) : Exec σ ε α := fun s => (.error e, s)

/-- A computation without state effects. -/
def ofExcept (r : Except ε α) : Exec σ ε α := fun s => (r, s)

/-- Change the error of an abort. -/
def mapError (f : ε → ε') (x : Exec σ ε α) : Exec σ ε' α := fun s =>
  match x s with
  | (.ok a, s') => (.ok a, s')
  | (.error e, s') => (.error (f e), s')

/-- Run a computation on one component of a larger state. -/
def zoom (read : σ → τ) (write : τ → σ → σ) (x : Exec τ ε α) : Exec σ ε α := fun s =>
  ((x (read s)).1, write (x (read s)).2 s)

/-- Run a computation on a copy of the state; the copy replaces the state only when
the computation returns. -/
def atomic (x : Exec σ ε α) : Exec σ ε α := fun s =>
  match x s with
  | (.ok a, s') => (.ok a, s')
  | (.error e, _) => (.error e, s)

@[simp] theorem pure_apply (a : α) (s : σ) : (pure a : Exec σ ε α) s = (.ok a, s) := rfl

theorem bind_apply (x : Exec σ ε α) (f : α → Exec σ ε β) (s : σ) :
    (x >>= f) s =
      match x s with
      | (.ok a, s') => f a s'
      | (.error e, s') => (.error e, s') := rfl

@[simp] theorem throw_apply (e : ε) (s : σ) : (throw e : Exec σ ε α) s = (.error e, s) := rfl

@[simp] theorem get_apply (s : σ) : (get : Exec σ ε σ) s = (.ok s, s) := rfl

@[simp] theorem modify_apply (f : σ → σ) (s : σ) :
    (modify f : Exec σ ε Unit) s = (.ok (), f s) := rfl

@[simp] theorem ofExcept_apply (r : Except ε α) (s : σ) : (ofExcept r : Exec σ ε α) s = (r, s) := rfl

/-! Symbolic execution: the first statement of a sequence. -/

@[simp] theorem pure_bind_apply (a : α) (f : α → Exec σ ε β) (s : σ) :
    ((pure a : Exec σ ε α) >>= f) s = f a s := rfl

@[simp] theorem get_bind_apply (f : σ → Exec σ ε β) (s : σ) :
    ((get : Exec σ ε σ) >>= f) s = f s s := rfl

@[simp] theorem modify_bind_apply (g : σ → σ) (f : Unit → Exec σ ε β) (s : σ) :
    ((modify g : Exec σ ε Unit) >>= f) s = f () (g s) := rfl

@[simp] theorem ok_bind_apply (a : α) (f : α → Exec σ ε β) (s : σ) :
    ((ofExcept (.ok a) : Exec σ ε α) >>= f) s = f a s := rfl

@[simp] theorem error_bind_apply (e : ε) (f : α → Exec σ ε β) (s : σ) :
    ((ofExcept (.error e) : Exec σ ε α) >>= f) s = (.error e, s) := rfl

/-! ## Inversion: what a finished computation did -/

variable {x : Exec σ ε α} {f : α → Exec σ ε β} {s s' : σ} {bs : List β}

theorem bind_eq_ok {b : β} :
    (x >>= f) s = (.ok b, s') ↔ ∃ a s₁, x s = (.ok a, s₁) ∧ f a s₁ = (.ok b, s') := by
  rw [bind_apply]
  constructor
  · intro h
    split at h
    · next a s₁ hx => exact ⟨a, s₁, hx, h⟩
    · cases h
  · rintro ⟨a, s₁, hx, hf⟩
    rw [hx]
    exact hf

theorem bind_eq_error {e : ε} :
    (x >>= f) s = (.error e, s') ↔
      x s = (.error e, s') ∨ ∃ a s₁, x s = (.ok a, s₁) ∧ f a s₁ = (.error e, s') := by
  rw [bind_apply]
  constructor
  · intro h
    split at h
    · next a s₁ hx => exact .inr ⟨a, s₁, hx, h⟩
    · next e' s₁ hx =>
      cases h
      exact .inl hx
  · rintro (hx | ⟨a, s₁, hx, hf⟩)
    · rw [hx]
    · rw [hx]
      exact hf

/-- The two ways through a sequence. -/
theorem bind_eq {r : Except ε β} (h : (x >>= f) s = (r, s')) :
    (∃ a s₁, x s = (.ok a, s₁) ∧ f a s₁ = (r, s')) ∨
      ∃ e, x s = (.error e, s') ∧ r = .error e := by
  rw [bind_apply] at h
  split at h
  · next a s₁ hx => exact .inl ⟨a, s₁, hx, h⟩
  · next e s₁ hx =>
    cases h
    exact .inr ⟨e, hx, rfl⟩

theorem ofExcept_eq {r r' : Except ε α} : ofExcept r s = (r', s') ↔ r = r' ∧ s = s' := by
  rw [ofExcept_apply, Prod.mk.injEq]

theorem mapError_eq_ok {f : ε → ε'} {a : α} : mapError f x s = (.ok a, s') ↔ x s = (.ok a, s') := by
  unfold mapError
  cases hx : x s with
  | mk r s₁ => cases r <;> simp

theorem mapError_eq_error {f : ε → ε'} {e' : ε'} :
    mapError f x s = (.error e', s') ↔ ∃ e, x s = (.error e, s') ∧ f e = e' := by
  unfold mapError
  cases hx : x s with
  | mk r s₁ => cases r <;> simp [and_assoc, and_comm]

/-- A computation on a component changes that component only. -/
theorem zoom_eq {read : σ → τ} {write : τ → σ → σ} {x : Exec τ ε α} {r : Except ε α} :
    zoom read write x s = (r, s') ↔ ∃ t', x (read s) = (r, t') ∧ write t' s = s' := by
  unfold zoom
  rw [Prod.mk.injEq]
  constructor
  · rintro ⟨rfl, rfl⟩
    exact ⟨_, rfl, rfl⟩
  · rintro ⟨t', hx, rfl⟩
    rw [hx]
    exact ⟨rfl, rfl⟩

/-- An aborted atomic computation leaves the state as it was. -/
theorem atomic_error {e : ε} (h : atomic x s = (.error e, s')) : s' = s := by
  unfold atomic at h
  split at h <;> cases h
  rfl

theorem atomic_eq_error {e : ε} :
    atomic x s = (.error e, s') ↔ s' = s ∧ ∃ s₁, x s = (.error e, s₁) := by
  unfold atomic
  cases hx : x s with
  | mk r s₁ => cases r <;> simp [eq_comm, and_comm]

theorem atomic_eq_ok {a : α} : atomic x s = (.ok a, s') ↔ x s = (.ok a, s') := by
  unfold atomic
  cases hx : x s with
  | mk r s₁ => cases r <;> simp

/-! ## Loops -/

/-- A loop over a list that collects what each round returns. -/
def each (f : α → Exec σ ε β) : List α → Exec σ ε (List β)
  | [] => pure []
  | a :: rest => do
    let b ← f a
    let bs ← each f rest
    pure (b :: bs)

theorem each_nil_eq_ok : each f [] s = (.ok bs, s') ↔ bs = [] ∧ s' = s := by
  rw [each, pure_apply, Prod.mk.injEq, Except.ok.injEq]
  exact ⟨fun ⟨hbs, hs⟩ => ⟨hbs.symm, hs.symm⟩, fun ⟨hbs, hs⟩ => ⟨hbs.symm, hs.symm⟩⟩

theorem each_cons_eq_ok {a : α} {rest : List α} :
    each f (a :: rest) s = (.ok bs, s') ↔
      ∃ b s₁ bs', f a s = (.ok b, s₁) ∧ each f rest s₁ = (.ok bs', s') ∧ bs = b :: bs' := by
  rw [each, bind_eq_ok]
  constructor
  · rintro ⟨b, s₁, hb, hrest⟩
    obtain ⟨bs', s₂, hbs', hpure⟩ := bind_eq_ok.mp hrest
    rw [pure_apply, Prod.mk.injEq, Except.ok.injEq] at hpure
    obtain ⟨rfl, rfl⟩ := hpure
    exact ⟨b, s₁, bs', hb, hbs', rfl⟩
  · rintro ⟨b, s₁, bs', hb, hbs', rfl⟩
    exact ⟨b, s₁, hb, bind_eq_ok.mpr ⟨bs', s', hbs', rfl⟩⟩

theorem each_length {l : List α} (h : each f l s = (.ok bs, s')) : bs.length = l.length := by
  induction l generalizing s bs with
  | nil => rw [(each_nil_eq_ok.mp h).1, List.length_nil, List.length_nil]
  | cons a rest ih =>
    obtain ⟨b, s₁, bs', -, hrest, rfl⟩ := each_cons_eq_ok.mp h
    rw [List.length_cons, List.length_cons, ih hrest]

/-- What no round changes, the loop does not change. -/
theorem each_keeps {read : σ → γ} {l : List α}
    (hf : ∀ a s b s', f a s = (.ok b, s') → read s' = read s) (h : each f l s = (.ok bs, s')) :
    read s' = read s := by
  induction l generalizing s bs with
  | nil => rw [(each_nil_eq_ok.mp h).2]
  | cons a rest ih =>
    obtain ⟨b, s₁, bs', hb, hrest, -⟩ := each_cons_eq_ok.mp h
    rw [ih hrest, hf a s b s₁ hb]

/-! ## Independence of a part of the state -/

/-- `x` neither reads nor writes what `put` overwrites. -/
def Independent (put : σ → σ) (x : Exec σ ε α) : Prop := ∀ s, x (put s) = ((x s).1, put (x s).2)

namespace Independent

variable {put : σ → σ}

theorem pure (a : α) : Independent put (Pure.pure a : Exec σ ε α) := fun _ => rfl

theorem throw (e : ε) : Independent put (Exec.throw e : Exec σ ε α) := fun _ => rfl

theorem modify {f : σ → σ} (h : ∀ s, f (put s) = put (f s)) :
    Independent put (Exec.modify f : Exec σ ε Unit) := fun s => by
  rw [modify_apply, modify_apply, h]

theorem bind {x : Exec σ ε α} {f : α → Exec σ ε β} (hx : Independent put x)
    (hf : ∀ a, Independent put (f a)) : Independent put (x >>= f) := fun s => by
  rw [bind_apply, bind_apply, hx s]
  cases x s with
  | mk r s' =>
    cases r with
    | ok a => exact hf a s'
    | error e => rfl

/-- What is read must not depend on the part that `put` overwrites. -/
theorem get_bind {f : σ → Exec σ ε β} (hread : ∀ s, f (put s) = f s)
    (hf : ∀ a, Independent put (f a)) : Independent put (get >>= f) := fun s => by
  rw [get_bind_apply, get_bind_apply, hread]
  exact hf s s

theorem zoom {read : σ → τ} {write : τ → σ → σ} (x : Exec τ ε α)
    (hread : ∀ s, read (put s) = read s) (hwrt : ∀ t s, write t (put s) = put (write t s)) :
    Independent put (Exec.zoom read write x) := fun s => by
  show ((x (read (put s))).1, write (x (read (put s))).2 (put s)) = _
  rw [hread, hwrt]
  rfl

end Independent

end Exec

end ServerRS.Lib

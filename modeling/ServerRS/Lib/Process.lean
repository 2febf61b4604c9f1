import Mathlib.Data.List.Induction
import ServerRS.Lib.Exec

/-!
# Processes that share a state

A `Process C R α` is a program seen from outside: it makes calls, goes on with what it is
answered, and ends with an `α`. What a call does is not part of it, so that one program can
run alone (`run`), on top of other programs (`interpret`), or as one of many in a `Pool`,
where the calls of all processes interleave and a process may be dropped at any point.

`Along A P Q` is what can be said of a process by itself: as long as it is answered as `A`
says, it makes no call but those with `P`, and ends with a `Q`. `Pool.calls_along` carries
that over to the calls that a pool has made.
-/

namespace ServerRS.Lib

/-- A program that makes the calls `C` and is answered in `R`. -/
inductive Process (C : Type) (R : C → Type) (α : Type) where
  | done (a : α)
  | call (c : C) (next : R c → Process C R α)

namespace Process

variable {C D : Type} {R : C → Type} {S : D → Type} {α β σ : Type}

def bind : Process C R α → (α → Process C R β) → Process C R β
  | .done a, f => f a
  | .call c next, f => .call c fun r => (next r).bind f

instance : Monad (Process C R) where
  pure := .done
  bind := bind

/-- A single call. -/
def ask (c : C) : Process C R (R c) := .call c .done

/-- Every call is carried out by a program. -/
def interpret (answer : (c : C) → Process D S (R c)) : Process C R α → Process D S α
  | .done a => .done a
  | .call c next => (answer c).bind fun r => (next r).interpret answer

/-! ## What a process can do -/

/-- Answered as `A` says, the process makes calls with `P` only, and ends with a `Q`. -/
def Along (A : (c : C) → R c → Prop) (P : C → Prop) (Q : α → Prop) : Process C R α → Prop
  | .done a => Q a
  | .call c next => P c ∧ ∀ r, A c r → (next r).Along A P Q

section Along

variable {A : (c : C) → R c → Prop} {P : C → Prop} {Q Q' : α → Prop} {p : Process C R α}

/-- Every process ends somehow, whatever it is answered. -/
theorem along_trivial (p : Process C R α) : p.Along (fun _ _ => True) (fun _ => True) fun _ => True := by
  induction p with
  | done a => trivial
  | call c next ih => exact ⟨trivial, fun r _ => ih r⟩

theorem Along.mono (h : p.Along A P Q) (hres : ∀ a, Q a → Q' a) : p.Along A P Q' := by
  induction p with
  | done a => exact hres a h
  | call c next ih => exact ⟨h.1, fun r hr => ih r (h.2 r hr)⟩

theorem Along.monoCalls {P' : C → Prop} (h : p.Along A P Q) (hcalls : ∀ c, P c → P' c) :
    p.Along A P' Q := by
  induction p with
  | done a => exact h
  | call c next ih => exact ⟨hcalls c h.1, fun r hr => ih r (h.2 r hr)⟩

theorem Along.bind {f : α → Process C R β} {Q : α → Prop} {Q' : β → Prop} (h : p.Along A P Q)
    (hf : ∀ a, Q a → (f a).Along A P Q') : (p >>= f).Along A P Q' := by
  induction p with
  | done a => exact hf a h
  | call c next ih => exact ⟨h.1, fun r hr => ih r (h.2 r hr)⟩

/-- A process over programs makes the calls of these programs. -/
theorem Along.interpret {B : (d : D) → S d → Prop} {N : D → Prop}
    {answer : (c : C) → Process D S (R c)} (h : p.Along A P Q)
    (hans : ∀ c, P c → (answer c).Along B N (A c)) : (p.interpret answer).Along B N Q := by
  induction p with
  | done a => exact h
  | call c next ih => exact (hans c h.1).bind fun r hr => ih r (h.2 r hr)

/-- The rule for a process that may fail. -/
theorem Along.bindExcept {ε : Type} {x : ExceptT ε (Process C R) α} {f : α → ExceptT ε (Process C R) β}
    {Q : Except ε α → Prop} {Q' : Except ε β → Prop} (h : x.run.Along A P Q)
    (hf : ∀ a, Q (.ok a) → (f a).run.Along A P Q') (herr : ∀ e, Q (.error e) → Q' (.error e)) :
    (x >>= f).run.Along A P Q' := by
  refine Along.bind h fun r hr => ?_
  cases r with
  | ok a => exact hf a hr
  | error e => exact herr e hr

theorem Along.lift {ε : Type} (h : p.Along A P Q) :
    (ExceptT.lift p : ExceptT ε (Process C R) α).run.Along A P fun r => ∀ a, r = .ok a → Q a := by
  refine Along.bind h fun a ha b hb => ?_
  cases hb
  exact ha

end Along

/-! ## A process that runs alone -/

/-- The result of a process and the state after it, when nothing else runs. -/
def run (answer : (c : C) → σ → R c × σ) : Process C R α → σ → α × σ
  | .done a, s => (a, s)
  | .call c next, s => (next (answer c s).1).run answer (answer c s).2

theorem run_bind (answer : (c : C) → σ → R c × σ) (p : Process C R α) (f : α → Process C R β)
    (s : σ) : (p >>= f).run answer s = (f (p.run answer s).1).run answer (p.run answer s).2 := by
  induction p generalizing s with
  | done a => rfl
  | call c next ih => exact ih _ _

/-- Run alone, a process that may fail is a computation that may abort. -/
def execute {ε : Type} (answer : (c : C) → σ → R c × σ) (x : ExceptT ε (Process C R) α) :
    Exec σ ε α := x.run.run answer

theorem execute_bind {ε : Type} (answer : (c : C) → σ → R c × σ) (x : ExceptT ε (Process C R) α)
    (f : α → ExceptT ε (Process C R) β) :
    execute answer (x >>= f) = execute answer x >>= fun a => execute answer (f a) := by
  funext s
  rw [Exec.bind_apply]
  refine (run_bind answer x.run _ s).trans ?_
  unfold execute
  cases x.run.run answer s with
  | mk r s' => cases r <;> rfl

/-- What every call keeps, a process that runs alone keeps. -/
theorem run_keeps {answer : (c : C) → σ → R c × σ} {A : (c : C) → R c → Prop} {P : C → Prop}
    {Q : α → Prop} (Inv : σ → Prop) {p : Process C R α} {s : σ} (h : p.Along A P Q) (hs : Inv s)
    (hcall : ∀ c s, P c → Inv s → A c (answer c s).1 ∧ Inv (answer c s).2) :
    Q (p.run answer s).1 ∧ Inv (p.run answer s).2 := by
  induction p generalizing s with
  | done a => exact ⟨h, hs⟩
  | call c next ih =>
    obtain ⟨hans, hinv⟩ := hcall c s h.1 hs
    exact ih _ (h.2 _ hans) hinv

end Process

/-! ## Pools -/

/-- A call that was carried out: what came with it from outside, and how it was answered. -/
structure Performed (τ C : Type) (R : C → Type) where
  tick : τ
  call : C
  answer : R call

/-- Processes over one state, and the calls that they have made. -/
structure Pool (τ C : Type) (R : C → Type) (α σ : Type) where
  state : σ
  processes : List (Process C R α) := []
  trace : List (Performed τ C R) := []

/-- What can happen next in a pool. -/
inductive PoolMove (τ C : Type) (R : C → Type) (α : Type) where
  | start (p : Process C R α)
  /-- The process at `i` makes its next call. -/
  | step (i : ℕ) (tick : τ)
  /-- The process at `i` is dropped where it stands. -/
  | drop (i : ℕ)

namespace Pool

variable {τ C : Type} {R : C → Type} {α σ : Type} (answer : τ → (c : C) → σ → R c × σ)

def move (pool : Pool τ C R α σ) : PoolMove τ C R α → Pool τ C R α σ
  | .start p => { pool with processes := pool.processes ++ [p] }
  | .step i tick =>
    match pool.processes[i]? with
    | some (.call c next) =>
      { state := (answer tick c pool.state).2
        processes := pool.processes.set i (next (answer tick c pool.state).1)
        trace := pool.trace ++ [⟨tick, c, (answer tick c pool.state).1⟩] }
    | _ => pool
  | .drop i => { pool with processes := pool.processes.eraseIdx i }

def after (s : σ) (moves : List (PoolMove τ C R α)) : Pool τ C R α σ :=
  moves.foldl (fun pool next => pool.move answer next) { state := s }

/-- The state after a list of calls. -/
def replay (s : σ) (trace : List (Performed τ C R)) : σ :=
  trace.foldl (fun s performed => (answer performed.tick performed.call s).2) s

variable {answer} {s : σ} {moves : List (PoolMove τ C R α)}

theorem after_snoc {next : PoolMove τ C R α} :
    after answer s (moves ++ [next]) = (after answer s moves).move answer next := by
  rw [after, List.foldl_append]
  rfl

variable {performed : Performed τ C R}

theorem replay_snoc {trace : List (Performed τ C R)} :
    replay answer s (trace ++ [performed]) =
      (answer performed.tick performed.call (replay answer s trace)).2 := by
  rw [replay, List.foldl_append]
  rfl

variable (answer) in
/-- What a step does: nothing, or one call of one process. -/
theorem move_step (pool : Pool τ C R α σ) (i : ℕ) (tick : τ) :
    pool.move answer (.step i tick) = pool ∨
      ∃ c next, pool.processes[i]? = some (.call c next) ∧
        pool.move answer (.step i tick) =
          { state := (answer tick c pool.state).2
            processes := pool.processes.set i (next (answer tick c pool.state).1)
            trace := pool.trace ++ [⟨tick, c, (answer tick c pool.state).1⟩] } := by
  unfold move
  dsimp only
  split
  · next c next h => exact .inr ⟨c, next, h, rfl⟩
  · exact .inl rfl

variable (answer) in
theorem trace_move (pool : Pool τ C R α σ) (next : PoolMove τ C R α) :
    (pool.move answer next).trace = pool.trace ∧ (pool.move answer next).state = pool.state ∨
      ∃ performed, (pool.move answer next).trace = pool.trace ++ [performed] ∧
        performed.answer = (answer performed.tick performed.call pool.state).1 ∧
        (pool.move answer next).state = (answer performed.tick performed.call pool.state).2 := by
  cases next with
  | start p => exact .inl ⟨rfl, rfl⟩
  | drop i => exact .inl ⟨rfl, rfl⟩
  | step i tick =>
    rcases pool.move_step answer i tick with h | ⟨c, next, -, h⟩
    · rw [h]
      exact .inl ⟨rfl, rfl⟩
    · rw [h]
      exact .inr ⟨_, rfl, rfl, rfl⟩

/-- The state of a pool is what its calls have made of the first state. -/
theorem state_eq_replay : (after answer s moves).state = replay answer s
    (after answer s moves).trace := by
  induction moves using List.reverseRecOn with
  | nil => rfl
  | append_singleton moves next ih =>
    rw [after_snoc]
    rcases (after answer s moves).trace_move answer next with
      ⟨htrace, hst⟩ | ⟨performed, htrace, -, hst⟩
    · rw [htrace, hst, ih]
    · rw [htrace, hst, replay_snoc, ih]

/-- Every call was answered in the state that the calls before it left. -/
theorem answer_eq {before rest : List (Performed τ C R)}
    (h : (after answer s moves).trace = before ++ performed :: rest) :
    performed.answer = (answer performed.tick performed.call (replay answer s before)).1 := by
  induction moves using List.reverseRecOn generalizing rest with
  | nil => cases before <;> cases h
  | append_singleton moves next ih =>
    rw [after_snoc] at h
    rcases (after answer s moves).trace_move answer next with
      ⟨htrace, -⟩ | ⟨last, htrace, hans, -⟩
    · exact ih (htrace ▸ h)
    · rw [htrace] at h
      rcases List.eq_nil_or_concat rest with rfl | ⟨rest, x, rfl⟩
      · obtain ⟨hbef, hlast⟩ := List.append_inj' h rfl
        cases hlast
        rw [hans, state_eq_replay, hbef]
      · rw [List.concat_eq_append, ← List.cons_append, ← List.append_assoc] at h
        exact ih (List.append_inj_left' h rfl)

/-- What is true of every process by itself is true of the calls of a pool. -/
theorem calls_along {A : (c : C) → R c → Prop} {P : C → Prop} {Q : α → Prop}
    (hsta : ∀ p, .start p ∈ moves → p.Along A P Q)
    (hanss : ∀ performed ∈ (after answer s moves).trace, A performed.call performed.answer) :
    (∀ performed ∈ (after answer s moves).trace, P performed.call) ∧
      ∀ p ∈ (after answer s moves).processes, p.Along A P Q := by
  induction moves using List.reverseRecOn with
  | nil => exact ⟨nofun, nofun⟩
  | append_singleton moves next ih =>
    rw [after_snoc] at hanss ⊢
    have hsta' : ∀ p, .start p ∈ moves → p.Along A P Q := fun p hp =>
      hsta p (List.mem_append_left _ hp)
    cases next with
    | start p =>
      obtain ⟨hcalls, hproc⟩ := ih hsta' hanss
      refine ⟨hcalls, fun q hq => ?_⟩
      rcases List.mem_append.mp hq with hq | hq
      · exact hproc q hq
      · rw [List.mem_singleton.mp hq]
        exact hsta p (List.mem_append_right _ List.mem_cons_self)
    | drop i =>
      obtain ⟨hcalls, hproc⟩ := ih hsta' hanss
      exact ⟨hcalls, fun q hq => hproc q (List.mem_of_mem_eraseIdx hq)⟩
    | step i tick =>
      rcases (after answer s moves).move_step answer i tick with h | ⟨c, next, hi, h⟩
      · rw [h] at hanss ⊢
        exact ih hsta' hanss
      · rw [h] at hanss ⊢
        dsimp only at hanss ⊢
        obtain ⟨hcalls, hproc⟩ := ih hsta' fun performed hp =>
          hanss performed (List.mem_append_left _ hp)
        have halong : (Process.call c next).Along A P Q :=
          hproc _ (List.mem_of_getElem? hi)
        have hans := hanss _ (List.mem_append_right _ List.mem_cons_self)
        refine ⟨fun performed hp => ?_, fun q hq => ?_⟩
        · rcases List.mem_append.mp hp with hp | hp
          · exact hcalls performed hp
          · rw [List.mem_singleton.mp hp]
            exact halong.1
        · rcases List.mem_or_eq_of_mem_set hq with hq | rfl
          · exact hproc q hq
          · exact halong.2 _ hans

end Pool

/-! ## Calls that depend on earlier answers -/

section Knowing

variable {τ C : Type} {R : C → Type} {α σ : Type} {P : List (Performed τ C R) → C → Prop}

/-- Each call of the process has `P`, which may look at the calls that the process has made. -/
def Process.Knowing (P : List (Performed τ C R) → C → Prop) :
    List (Performed τ C R) → Process C R α → Prop
  | _, .done _ => True
  | own, .call c next => P own c ∧ ∀ tick r, (next r).Knowing P (own ++ [⟨tick, c, r⟩])

/-- A process whose calls have `P` whatever it has called before. -/
theorem Process.Along.knowing {N : C → Prop} {Q : α → Prop} {p : Process C R α}
    (h : p.Along (fun _ _ => True) N Q) {own : List (Performed τ C R)}
    (hP : ∀ more c, N c → P (own ++ more) c) : p.Knowing P own := by
  induction p generalizing own with
  | done a => trivial
  | call c next ih =>
    refine ⟨by simpa using hP [] c h.1, fun tick r => ih r (h.2 r trivial) fun more c hc => ?_⟩
    rw [List.append_assoc]
    exact hP _ c hc

namespace Pool

/-- The pool after more moves. -/
def go (answer : τ → (c : C) → σ → R c × σ) (pool : Pool τ C R α σ)
    (moves : List (PoolMove τ C R α)) : Pool τ C R α σ :=
  moves.foldl (fun pool next => pool.move answer next) pool

variable {answer : τ → (c : C) → σ → R c × σ} {pool : Pool τ C R α σ}
  {moves : List (PoolMove τ C R α)}

theorem after_append {s : σ} {more : List (PoolMove τ C R α)} :
    after answer s (moves ++ more) = (after answer s moves).go answer more := by
  rw [after, List.foldl_append]
  rfl

theorem go_snoc {next : PoolMove τ C R α} :
    pool.go answer (moves ++ [next]) = (pool.go answer moves).move answer next := by
  rw [go, List.foldl_append]
  rfl

/-- Each new call of a pool has `P` for the calls that the same process has made before it. -/
theorem go_knowing (hpool : ∀ p ∈ pool.processes, p.Knowing P [])
    (hsta : ∀ p, .start p ∈ moves → p.Knowing P []) :
    ∃ new, (pool.go answer moves).trace = pool.trace ++ new ∧
      (∀ before performed after, new = before ++ performed :: after →
        ∃ own, own.Sublist before ∧ P own performed.call) ∧
      ∀ p ∈ (pool.go answer moves).processes, ∃ own, own.Sublist new ∧ p.Knowing P own := by
  induction moves using List.reverseRecOn with
  | nil => exact ⟨[], by simp [go], by simp, fun p hp => ⟨[], .slnil, hpool p hp⟩⟩
  | append_singleton moves next ih =>
    obtain ⟨new, htrace, hcalls, hproc⟩ := ih fun p hp => hsta p (List.mem_append_left _ hp)
    rw [go_snoc]
    cases next with
    | start p =>
      refine ⟨new, htrace, hcalls, fun q hq => ?_⟩
      rcases List.mem_append.mp hq with hq | hq
      · exact hproc q hq
      · rw [List.mem_singleton.mp hq]
        exact ⟨[], List.nil_sublist _, hsta p (List.mem_append_right _ List.mem_cons_self)⟩
    | drop i => exact ⟨new, htrace, hcalls, fun q hq => hproc q (List.mem_of_mem_eraseIdx hq)⟩
    | step i tick =>
      rcases (pool.go answer moves).move_step answer i tick with h | ⟨c, next, hi, h⟩
      · rw [h]
        exact ⟨new, htrace, hcalls, hproc⟩
      · rw [h]
        dsimp only
        obtain ⟨own, hown, hknow⟩ := hproc _ (List.mem_of_getElem? hi)
        refine ⟨new ++ [⟨tick, c, (answer tick c (pool.go answer moves).state).1⟩], ?_, ?_, ?_⟩
        · rw [htrace, List.append_assoc]
        · intro before performed rest hspl
          rcases List.eq_nil_or_concat rest with rfl | ⟨rest, last, rfl⟩
          · obtain ⟨rfl, hlast⟩ := List.append_inj' hspl rfl
            cases hlast
            exact ⟨own, hown, hknow.1⟩
          · rw [List.concat_eq_append, ← List.cons_append, ← List.append_assoc] at hspl
            exact hcalls before performed rest (List.append_inj_left' hspl rfl)
        · intro q hq
          rcases List.mem_or_eq_of_mem_set hq with hq | rfl
          · obtain ⟨own', hown', hq⟩ := hproc q hq
            exact ⟨own', hown'.trans (List.sublist_append_left _ _), hq⟩
          · exact ⟨own ++ [_], hown.append_right _, hknow.2 tick _⟩

end Pool

end Knowing

end ServerRS.Lib

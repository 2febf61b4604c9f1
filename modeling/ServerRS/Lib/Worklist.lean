import Mathlib.Data.List.Basic
import Mathlib.Data.List.Count
import Std.Data.TreeSet
import Std.Data.TreeSet.Lemmas
import ServerRS.Lib.Reachable

/-!
# Worklist closure

The breadth-first loop `while let Some(x) = queue.pop_front()` that marks what it
pops and pushes the successors of what it marks for the first time. `worklist` runs it
with a bound on the pops, and `Pop` is one turn of it. With a pop for each edge and each
start the loop ends (`pop_wellFounded`, `worklist_runs`), and what it has marked is then
what a path leads to (`mem_worklist`).
-/

namespace ServerRS.Lib

variable {α : Type} [Ord α]

/-- Run the loop for at most `fuel` pops. An element is expanded once, so the pops are at
most the initial queue and one per edge. -/
def worklist (next : α → List α) : Nat → List α → Std.TreeSet α → Std.TreeSet α
  | 0, _, seen => seen
  | _ + 1, [], seen => seen
  | fuel + 1, x :: queue, seen =>
    if seen.contains x then worklist next fuel queue seen
    else worklist next fuel (queue ++ next x) (seen.insert x)

/-- One turn of the loop, on the queue and the marked elements. -/
inductive Pop (next : α → List α) :
    List α × Std.TreeSet α → List α × Std.TreeSet α → Prop
  | again {x : α} {queue : List α} {seen : Std.TreeSet α} :
      x ∈ seen → Pop next (x :: queue, seen) (queue, seen)
  | first {x : α} {queue : List α} {seen : Std.TreeSet α} :
      x ∉ seen → Pop next (x :: queue, seen) (queue ++ next x, seen.insert x)

/-- A path along the successors. -/
def Path (next : α → List α) : α → α → Prop := Relation.ReflTransGen fun a b => b ∈ next a

variable {next : α → List α}

/-- What every turn keeps: the loop stays on paths from the start, forgets no start and pushes the
successors of what it marks. -/
structure Searched (next : α → List α) (start : List α) (state : List α × Std.TreeSet α) : Prop where
  sound : ∀ x, x ∈ state.1 ∨ x ∈ state.2 → ∃ s ∈ start, Path next s x
  started : ∀ s ∈ start, s ∈ state.1 ∨ s ∈ state.2
  closed : ∀ x ∈ state.2, ∀ y ∈ next x, y ∈ state.1 ∨ y ∈ state.2

theorem Searched.initial (start : List α) : Searched next start (start, ∅) where
  sound x hx := by
    rcases hx with hx | hx
    · exact ⟨x, hx, .refl⟩
    · simp at hx
  started s hs := .inl hs
  closed x hx := by simp at hx

/-- A loop that has come to the empty queue has marked what a path leads to. -/
theorem Searched.mem_iff {start : List α} {seen : Std.TreeSet α}
    (h : Searched next start ([], seen)) {x : α} : x ∈ seen ↔ ∃ s ∈ start, Path next s x := by
  constructor
  · exact fun hx => h.sound x (.inr hx)
  · rintro ⟨s, hs, hpath⟩
    induction hpath with
    | refl => exact (h.started s hs).resolve_left List.not_mem_nil
    | tail _ hnext ih => exact (h.closed _ ih _ hnext).resolve_left List.not_mem_nil

section

variable [Std.TransOrd α] [Std.LawfulEqOrd α]

/-! ## The loop ends -/

section

variable [DecidableEq α] {ε : Type} {edges : List ε} {key : ε → α}

/-- The edges that are still to be pushed. -/
def pending (edges : List ε) (key : ε → α) (seen : Std.TreeSet α) : ℕ :=
  edges.countP fun edge => !seen.contains (key edge)

variable {seen : Std.TreeSet α}

/-- Marking an element uses up its edges. -/
theorem pending_insert {x : α} (hx : x ∉ seen) :
    pending edges key (seen.insert x) + edges.countP (fun edge => key edge = x) =
      pending edges key seen := by
  induction edges with
  | nil => rfl
  | cons edge edges ih =>
    unfold pending at ih ⊢
    rw [List.countP_cons, List.countP_cons, List.countP_cons, ← ih]
    by_cases hedge : key edge = x
    · have hold : seen.contains x = false := Bool.eq_false_iff.mpr hx
      simp [hedge, hold]
      omega
    · have hne : ¬x = key edge := fun h => hedge h.symm
      simp [hedge, hne, Std.TreeSet.contains_insert]
      omega

section

variable (hnext : ∀ x, (next x).length ≤ edges.countP fun edge => key edge = x)
include hnext

/-- A turn takes an element from the queue, and pushes no more than it uses up. -/
theorem Pop.lt {before after : List α × Std.TreeSet α} (h : Pop next before after) :
    after.1.length + pending edges key after.2 < before.1.length + pending edges key before.2 := by
  cases h with
  | again hseen =>
    rw [List.length_cons]
    exact Nat.add_lt_add_right (Nat.lt_succ_self _) _
  | @first x queue seen hnew =>
    have hpend := @pending_insert α _ _ _ _ ε edges key seen x hnew
    have hedges := hnext x
    rw [List.length_cons, List.length_append]
    dsimp only
    omega

theorem pop_wellFounded :
    WellFounded fun after before => Pop next before after :=
  Subrelation.wf (fun h => h.lt hnext)
    (measure fun state : List α × Std.TreeSet α =>
      state.1.length + pending edges key state.2).wf

/-- With enough fuel the run is that of the loop, to the empty queue. -/
theorem worklist_runs
    {fuel : ℕ} {queue : List α} (hfuel : queue.length + pending edges key seen ≤ fuel) :
    Relation.ReflTransGen (Pop next) (queue, seen) ([], worklist next fuel queue seen) := by
  induction fuel generalizing queue seen with
  | zero =>
    have hnil : queue = [] := List.eq_nil_of_length_eq_zero (by omega)
    rw [hnil]
    exact .refl
  | succ fuel ih =>
    cases queue with
    | nil => exact .refl
    | cons x queue =>
      rw [List.length_cons] at hfuel
      unfold worklist
      split
      · next hseen =>
        have hpop : Pop next (x :: queue, seen) (queue, seen) := .again hseen
        have hlt := hpop.lt hnext
        exact .head hpop (ih (by simp only [List.length_cons] at hlt; omega))
      · next hnew =>
        have hpop : Pop next (x :: queue, seen) (queue ++ next x, seen.insert x) := .first hnew
        have hlt := hpop.lt hnext
        exact .head hpop (ih (by simp only [List.length_cons] at hlt; omega))

end

end

/-! ## What it marks -/

variable {start : List α} {state : List α × Std.TreeSet α}

theorem Searched.pop {after : List α × Std.TreeSet α} (h : Searched next start state)
    (hpop : Pop next state after) : Searched next start after := by
  cases hpop with
  | @again x queue seen hseen =>
    have hkept : ∀ y, y ∈ x :: queue ∨ y ∈ seen → y ∈ queue ∨ y ∈ seen := by
      rintro y (hy | hy)
      · rcases List.mem_cons.mp hy with rfl | hy
        · exact .inr hseen
        · exact .inl hy
      · exact .inr hy
    refine ⟨fun y hy => h.sound y ?_, fun s hs => hkept s (h.started s hs),
      fun y hy z hz => hkept z (h.closed y hy z hz)⟩
    exact hy.imp_left (List.mem_cons_of_mem x)
  | @first x queue seen hnew =>
    have hins : ∀ y, y ∈ seen.insert x ↔ y = x ∨ y ∈ seen := by
      intro y
      rw [Std.TreeSet.mem_insert, Std.LawfulEqOrd.compare_eq_iff_eq, eq_comm]
    have hkept : ∀ y, y ∈ x :: queue ∨ y ∈ seen → y ∈ queue ++ next x ∨ y ∈ seen.insert x := by
      rintro y (hy | hy)
      · rcases List.mem_cons.mp hy with rfl | hy
        · exact .inr ((hins y).mpr (.inl rfl))
        · exact .inl (List.mem_append_left _ hy)
      · exact .inr ((hins y).mpr (.inr hy))
    obtain ⟨s, hs, hpath⟩ := h.sound x (.inl List.mem_cons_self)
    refine ⟨?_, fun s hs => hkept s (h.started s hs), ?_⟩
    · rintro y (hy | hy)
      · rcases List.mem_append.mp hy with hy | hy
        · exact h.sound y (.inl (List.mem_cons_of_mem _ hy))
        · exact ⟨s, hs, hpath.tail hy⟩
      · rcases (hins y).mp hy with rfl | hy
        · exact ⟨s, hs, hpath⟩
        · exact h.sound y (.inr hy)
    · intro y hy z hz
      rcases (hins y).mp hy with rfl | hy
      · exact .inl (List.mem_append_right _ hz)
      · exact hkept z (h.closed y hy z hz)

theorem searched_run (hrun : Relation.ReflTransGen (Pop next) (start, ∅) state) :
    Searched next start state :=
  run_invariant (Searched next start) (fun _ _ h hpop => h.pop hpop) hrun (.initial start)

theorem mem_worklist [DecidableEq α] {ε : Type} {edges : List ε} {key : ε → α}
    (hnext : ∀ x, (next x).length ≤ edges.countP fun edge => key edge = x) {fuel : ℕ}
    (hfuel : start.length + edges.length ≤ fuel) {x : α} :
    x ∈ worklist next fuel start ∅ ↔ ∃ s ∈ start, Path next s x := by
  have hpend : pending edges key (∅ : Std.TreeSet α) ≤ edges.length := List.countP_le_length
  exact (searched_run (worklist_runs hnext (by omega))).mem_iff

end

end ServerRS.Lib

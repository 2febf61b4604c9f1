import Mathlib.Algebra.Order.Ring.Nat
import ServerRS.Lib.Except
import ServerRS.Lib.Table

/-!
# Folds that collect keys

A check of a list often carries the keys it has seen, and refuses one that comes twice.
`foldlM_collect` says when such a fold succeeds and what it returns. `foldlM_fresh` is the rule for a
fold that cannot fail because every key is new. The elements of a list that are numbered have
different keys (`nodup_mapIdx_key`).
-/

namespace ServerRS.Lib

open Lib.Except

theorem foldlM_collect {α κ ε : Type} {f : List κ → α → Except ε (List κ)} {key : α → κ}
    {Good : α → Prop} {l : List α} {seen seen' : List κ}
    (hf : ∀ a ∈ l, ∀ seen seen', f seen a = .ok seen' ↔
      Good a ∧ key a ∉ seen ∧ seen' = seen ++ [key a]) :
    l.foldlM f seen = .ok seen' ↔ (∀ a ∈ l, Good a) ∧ (l.map key).Nodup ∧
      (∀ k ∈ l.map key, k ∉ seen) ∧ seen' = seen ++ l.map key := by
  induction l generalizing seen with
  | nil =>
    rw [List.foldlM_nil]
    constructor
    · intro h
      cases h
      simp
    · rintro ⟨-, -, -, rfl⟩
      rw [List.map_nil, List.append_nil]
      rfl
  | cons a l ih =>
    have ih := @ih (seen ++ [key a]) fun b hb => hf b (List.mem_cons_of_mem _ hb)
    rw [List.foldlM_cons]
    constructor
    · intro h
      obtain ⟨next, hnext, hrest⟩ := bind_ok h
      obtain ⟨hgood, hfr, rfl⟩ := (hf a List.mem_cons_self _ _).mp hnext
      obtain ⟨hall, hnd, hdisj, rfl⟩ := ih.mp hrest
      refine ⟨List.forall_mem_cons.mpr ⟨hgood, hall⟩, ?_, ?_, ?_⟩
      · refine List.nodup_cons.mpr ⟨fun hmem => hdisj _ hmem ?_, hnd⟩
        exact List.mem_append_right _ (List.mem_singleton_self _)
      · refine List.forall_mem_cons.mpr ⟨hfr, fun k hk hseen => ?_⟩
        exact hdisj k hk (List.mem_append_left _ hseen)
      · rw [List.map_cons, List.append_assoc, List.singleton_append]
    · rintro ⟨hgood, hnd, hdisj, rfl⟩
      rw [List.map_cons, List.nodup_cons] at hnd
      rw [List.map_cons, List.forall_mem_cons] at hdisj
      rw [List.forall_mem_cons] at hgood
      refine bind_eq_of_ok ((hf a List.mem_cons_self _ _).mpr ⟨hgood.1, hdisj.1, rfl⟩) ?_
      refine ih.mpr ⟨hgood.2, hnd.2, fun k hk hseen => ?_, ?_⟩
      · rcases List.mem_append.mp hseen with hseen | hseen
        · exact hdisj.2 k hk hseen
        · rw [List.mem_singleton.mp hseen] at hk
          exact hnd.1 hk
      · rw [List.map_cons, List.append_assoc, List.singleton_append]

/-- A fold whose step uses up the key of its element, and fails on a used key only. -/
theorem foldlM_fresh {α β κ ε : Type} {f : β → α → Except ε β} {key : α → κ} {used : β → List κ}
    {l : List α} {b : β} (hstep : ∀ a ∈ l, ∀ b, key a ∉ used b →
      ∃ b', f b a = .ok b' ∧ ∀ k ∈ used b', k ∈ used b ∨ k = key a)
    (hnd : (l.map key).Nodup) (hfr : ∀ a ∈ l, key a ∉ used b) :
    ∃ b', l.foldlM f b = .ok b' := by
  induction l generalizing b with
  | nil => exact ⟨b, rfl⟩
  | cons a l ih =>
    rw [List.map_cons, List.nodup_cons] at hnd
    rw [List.forall_mem_cons] at hfr
    obtain ⟨next, hnext, hused⟩ := hstep a List.mem_cons_self b hfr.1
    obtain ⟨last, hlast⟩ := @ih next (fun c hc => hstep c (List.mem_cons_of_mem _ hc)) hnd.2
      fun c hc husedKey => by
        rcases hused _ husedKey with hold | hsame
        · exact hfr.2 c hc hold
        · exact hnd.1 (hsame ▸ List.mem_map_of_mem hc)
    exact ⟨last, by rw [List.foldlM_cons]; exact bind_eq_of_ok hnext hlast⟩

/-- A fold that appends a row for each element, if the rows leave room for it. -/
theorem foldlM_append {α β ε : Type} {f : List β → α → Except ε (List β)} {Free : α → β → Prop}
    {mk : α → β} {l : List α} {rows : List β} (hf : ∀ rows rows' a, f rows a = .ok rows' ↔
      (∀ row ∈ rows, Free a row) ∧ rows' = rows ++ [mk a]) :
    (∃ rows', l.foldlM f rows = .ok rows') ↔
      (∀ a ∈ l, ∀ row ∈ rows, Free a row) ∧ l.Pairwise fun a b => Free b (mk a) := by
  induction l generalizing rows with
  | nil => simp [pure, Except.pure]
  | cons a l ih =>
    rw [List.forall_mem_cons, List.pairwise_cons]
    constructor
    · rintro ⟨rows', h⟩
      rw [List.foldlM_cons] at h
      obtain ⟨next, hnext, h⟩ := bind_ok h
      obtain ⟨hfree, rfl⟩ := (hf rows next a).mp hnext
      obtain ⟨hall, hpair⟩ := ih.mp ⟨rows', h⟩
      exact ⟨⟨hfree, fun b hb row hrow => hall b hb row (List.mem_append_left _ hrow)⟩,
        fun b hb => hall b hb (mk a) (List.mem_append_right _ (List.mem_singleton_self _)), hpair⟩
    · rintro ⟨⟨hfree, hall⟩, hfst, hpair⟩
      obtain ⟨rows', h⟩ := (@ih (rows ++ [mk a])).mpr ⟨fun b hb row hrow => by
        rcases List.mem_append.mp hrow with hrow | hrow
        · exact hall b hb row hrow
        · rw [List.mem_singleton.mp hrow]
          exact hfst b hb, hpair⟩
      refine ⟨rows', ?_⟩
      rw [List.foldlM_cons]
      exact bind_eq_of_ok ((hf rows _ a).mpr ⟨hfree, rfl⟩) h

theorem nodup_mapIdx_key {α β κ : Type} {f : ℕ → α → β} {g : β → κ} {key : ℕ → κ} {l : List α}
    (hkey : Function.Injective key) (h : ∀ n a, g (f n a) = key n) :
    ((l.mapIdx f).map g).Nodup := by
  have hkeys : (l.mapIdx f).map g = (List.range l.length).map key := by
    refine List.ext_getElem (by simp) fun n hleft hright => ?_
    rw [List.getElem_map, List.getElem_mapIdx, h, List.getElem_map, List.getElem_range]
  rw [hkeys]
  exact List.nodup_range.map hkey

theorem forall_mem_mapIdx {α β : Type} {f : ℕ → α → β} {P : β → Prop} {Q : α → Prop} {l : List α}
    (h : ∀ n a, P (f n a) ↔ Q a) : (∀ b ∈ l.mapIdx f, P b) ↔ ∀ a ∈ l, Q a := by
  constructor
  · intro hall a ha
    obtain ⟨n, hn, rfl⟩ := List.getElem_of_mem ha
    exact (h n _).mp (hall _ (List.mem_mapIdx.mpr ⟨n, hn, rfl⟩))
  · intro hall b hb
    obtain ⟨n, hn, rfl⟩ := List.mem_mapIdx.mp hb
    exact (h n _).mpr (hall _ (List.getElem_mem hn))

theorem find?_key {α κ : Type} [DecidableEq κ] {rows : List α} {key : α → κ} {row : α}
    (hkey : (rows.map key).Nodup) (hrow : row ∈ rows) :
    rows.find? (fun other => key other = key row) = some row := by
  cases hfind : rows.find? (fun other => key other = key row) with
  | none => exact absurd (decide_eq_true rfl) (List.find?_eq_none.mp hfind row hrow)
  | some other =>
    have hsame := List.find?_some hfind
    rw [eq_of_key_eq hkey (List.mem_of_find?_eq_some hfind) hrow (of_decide_eq_true hsame)]

/-- The sum of a column is that of the row with a key and that of the other rows. -/
theorem sum_eq_others_add {α κ : Type} [DecidableEq κ] {rows : List α} {key : α → κ} (f : α → ℕ)
    (hkey : (rows.map key).Nodup) (k : κ) :
    (rows.map f).sum = ((rows.filter fun row => key row ≠ k).map f).sum +
      (rows.find? fun row => key row = k).elim 0 f := by
  induction rows with
  | nil => rfl
  | cons row rows ih =>
    obtain ⟨hnew, hkey⟩ := List.nodup_cons.mp hkey
    rw [List.map_cons, List.sum_cons]
    by_cases hsame : key row = k
    · -- The key is not among the rest.
      have hrest : rows.filter (fun row => key row ≠ k) = rows :=
        List.filter_eq_self.mpr fun other hoth => decide_eq_true fun hoth' =>
          hnew (List.mem_map.mpr ⟨other, hoth, hoth'.trans hsame.symm⟩)
      rw [List.filter_cons_of_neg (by simpa using hsame), hrest,
        List.find?_cons_of_pos (by simpa using hsame), Option.elim_some, Nat.add_comm]
    · rw [List.filter_cons_of_pos (by simpa using hsame), List.find?_cons_of_neg (by simpa using hsame),
        List.map_cons, List.sum_cons, ih hkey, Nat.add_assoc]

/-- A row is found after the rows with another key are gone. -/
theorem find?_others {α κ : Type} [DecidableEq κ] {rows : List α} {key : α → κ} {k k' : κ}
    (h : k' ≠ k) : (rows.filter fun row => key row ≠ k).find? (fun row => key row = k') =
      rows.find? fun row => key row = k' := by
  rw [List.find?_filter]
  congr 1
  funext row
  by_cases hsame : key row = k'
  · simp [hsame, h]
  · simp [hsame]

/-- An update that leaves the searched column alone. -/
theorem find?_updateWhere {α : Type} {rows : List α} {cond p : α → Bool} {set : α → α}
    (hset : ∀ row, p (set row) = p row) : (updateWhere cond set rows).find? p =
      (rows.find? p).map fun row => if cond row then set row else row := by
  have hp : (p ∘ fun row => if cond row then set row else row) = p := by
    funext row
    rw [Function.comp_apply]
    split
    · exact hset row
    · rfl
  rw [updateWhere, List.find?_map, hp]

end ServerRS.Lib

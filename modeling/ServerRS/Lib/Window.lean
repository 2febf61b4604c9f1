import Mathlib.Data.List.Sort

/-!
# The first rows of a table

`firstRows key n rows` is `SELECT … ORDER BY key LIMIT n`. A row is among them when it is in
the table and fewer than `n` rows come before it; `rank` counts those.
-/

namespace ServerRS.Lib

variable {α κ : Type} [LinearOrder κ] {key : α → κ} {n : Nat} {rows others : List α} {row : α}

/-- `ORDER BY key LIMIT n`. -/
def firstRows (key : α → κ) (n : Nat) (rows : List α) : List α :=
  (rows.insertionSort fun a b => key a ≤ key b).take n

/-- How many rows come before `row`. -/
def rank (key : α → κ) (rows : List α) (row : α) : Nat :=
  rows.countP fun other => decide (key other < key row)

theorem rank_perm (h : rows.Perm others) : rank key rows row = rank key others row :=
  h.countP_eq _

theorem rank_le_of_subperm (h : rows.Subperm others) : rank key rows row ≤ rank key others row :=
  h.countP_le _

theorem rank_le_of_sublist (h : rows.Sublist others) : rank key rows row ≤ rank key others row :=
  rank_le_of_subperm h.subperm

theorem perm_sorted : (rows.insertionSort fun a b => key a ≤ key b).Perm rows :=
  List.perm_insertionSort _ _

/-- Sorted by a key without repetitions, each row comes strictly before the ones behind it. -/
theorem sorted_lt (hkey : (rows.map key).Nodup) :
    (rows.insertionSort fun a b => key a ≤ key b).Pairwise fun a b => key a < key b := by
  have : Std.Total fun a b : α => key a ≤ key b := ⟨fun a b => le_total (key a) (key b)⟩
  have : IsTrans α fun a b : α => key a ≤ key b := ⟨fun _ _ _ => le_trans⟩
  have hle := List.pairwise_insertionSort (fun a b : α => key a ≤ key b) rows
  have hperm : (rows.insertionSort fun a b => key a ≤ key b).Perm rows := perm_sorted
  have hnd := (hperm.map key).nodup_iff.mpr hkey
  rw [List.Nodup, List.pairwise_map] at hnd
  exact (hle.and hnd).imp fun h => lt_of_le_of_ne h.1 h.2

theorem mem_firstRows (hkey : (rows.map key).Nodup) :
    row ∈ firstRows key n rows ↔ row ∈ rows ∧ rank key rows row < n := by
  have hsort := sorted_lt hkey
  have hperm : (rows.insertionSort fun a b => key a ≤ key b).Perm rows := perm_sorted
  rw [← rank_perm hperm, ← hperm.mem_iff, firstRows]
  generalize (rows.insertionSort fun a b => key a ≤ key b) = sorted at hsort
  clear hperm hkey
  induction sorted generalizing n with
  | nil => simp
  | cons first sorted ih =>
    obtain ⟨hfst, hsort⟩ := List.pairwise_cons.mp hsort
    cases n with
    | zero => simp
    | succ n =>
      have hrest : row ∈ sorted.take n ↔ row ∈ sorted ∧ rank key sorted row < n := ih hsort
      rw [List.take_succ_cons, List.mem_cons, List.mem_cons, hrest, rank, rank, List.countP_cons]
      by_cases hrow : row ∈ sorted
      · have hne : row ≠ first := by
          rintro rfl
          exact lt_irrefl _ (hfst _ hrow)
        simp [hrow, hne, hfst row hrow]
      · have hnone (h : row = first) : sorted.countP (fun other => decide (key other < key row)) = 0 := by
          rw [List.countP_eq_zero]
          intro other hoth
          simpa [h] using (hfst other hoth).le
        constructor
        · rintro (rfl | ⟨h, -⟩)
          · exact ⟨.inl rfl, by simp [hnone rfl]⟩
          · exact absurd h hrow
        · rintro ⟨rfl | h, -⟩
          · exact .inl rfl
          · exact absurd h hrow

theorem mem_of_mem_firstRows (h : row ∈ firstRows key n rows) : row ∈ rows :=
  perm_sorted.mem_iff.mp (List.mem_of_mem_take h)

theorem exists_mem_firstRows (hn : 0 < n) (h : row ∈ rows) : ∃ other, other ∈ firstRows key n rows := by
  have hmem : row ∈ rows.insertionSort fun a b => key a ≤ key b := perm_sorted.mem_iff.mpr h
  rw [firstRows]
  cases hsort : rows.insertionSort fun a b => key a ≤ key b with
  | nil => simp [hsort] at hmem
  | cons first sorted =>
    obtain ⟨n, rfl⟩ := Nat.exists_eq_add_of_le' hn
    exact ⟨first, by simp⟩

theorem firstRows_subperm : (firstRows key n rows).Subperm rows :=
  (List.take_sublist n _).subperm.trans perm_sorted.subperm

/-- The first rows are those of small rank, in the table's order up to a permutation. -/
theorem firstRows_perm (hkey : (rows.map key).Nodup) :
    (firstRows key n rows).Perm (rows.filter fun row => decide (rank key rows row < n)) := by
  have hrows : rows.Nodup := .of_map _ hkey
  have hfst : (firstRows key n rows).Nodup :=
    (perm_sorted.nodup_iff.mpr hrows).sublist (List.take_sublist n _)
  refine (List.perm_ext_iff_of_nodup hfst (hrows.filter _)).mpr fun row => ?_
  rw [mem_firstRows hkey, List.mem_filter, decide_eq_true_iff]

end ServerRS.Lib

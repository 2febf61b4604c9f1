import Mathlib.Data.List.Nodup

/-!
# Tables

A table is the list of its rows. `updateWhere` is an `UPDATE` with a condition; a column is a
key of the table when the list of its values has no duplicates. An update that leaves the key
alone keeps it a key (`map_updateWhere`), and a condition that fixes the key matches one row
(`countP_eq_one`). `insertIgnore` is an `INSERT IGNORE` into a table whose keys are given by a relation
of conflict between rows.
-/

namespace ServerRS.Lib

variable {α κ : Type} {rows : List α} {key : α → κ} {cond : α → Bool} {set : α → α} {row : α}

/-- `UPDATE rows SET set WHERE cond`. -/
def updateWhere (cond : α → Bool) (set : α → α) (rows : List α) : List α :=
  rows.map fun row => if cond row then set row else row

theorem mem_updateWhere {new : α} : new ∈ updateWhere cond set rows ↔
    ∃ row ∈ rows, (if cond row then set row else row) = new := by
  rw [updateWhere, List.mem_map]

theorem updateWhere_of_forall_not (h : ∀ row ∈ rows, cond row = false) :
    updateWhere cond set rows = rows := by
  have hrow : ∀ row ∈ rows, (if cond row then set row else row) = row := fun row hrow => by
    rw [h row hrow]
    rfl
  exact (List.map_congr_left hrow).trans (List.map_id rows)

theorem map_updateWhere (h : ∀ row, key (set row) = key row) :
    (updateWhere cond set rows).map key = rows.map key := by
  rw [updateWhere, List.map_map]
  refine List.map_congr_left fun row _ => ?_
  rw [Function.comp_apply]
  split
  · exact h row
  · rfl

/-- A row with a new key is added. -/
theorem nodup_map_concat (hkey : (rows.map key).Nodup) (hnew : ∀ other ∈ rows, key other ≠ key row) :
    ((rows ++ [row]).map key).Nodup := by
  rw [List.map_append, List.nodup_append]
  refine ⟨hkey, List.nodup_singleton _, ?_⟩
  intro value hvl new hnewKey
  obtain ⟨other, hoth, rfl⟩ := List.mem_map.mp hvl
  rw [List.map_singleton, List.mem_singleton] at hnewKey
  rw [hnewKey]
  exact hnew other hoth

variable {other : α}

/-- Two rows of a table with the same key are one. -/
theorem eq_of_key_eq (hkey : (rows.map key).Nodup) (hrow : row ∈ rows) (hoth : other ∈ rows)
    (h : key row = key other) : row = other :=
  List.inj_on_of_nodup_map hkey hrow hoth h

/-- Two rows with the same value in a unique column that may be empty are one. -/
theorem eq_of_optional_key {key : α → Option κ} (hkey : (rows.filterMap key).Nodup) {value : κ}
    (hrow : row ∈ rows) (hoth : other ∈ rows) (h : key row = some value)
    (h' : key other = some value) : row = other := by
  induction rows with
  | nil => cases hrow
  | cons first rows ih =>
    have hmem : ∀ {row}, row ∈ rows → key row = some value → value ∈ rows.filterMap key :=
      fun hrow h => List.mem_filterMap.mpr ⟨_, hrow, h⟩
    rcases List.mem_cons.mp hrow with rfl | hrow₀
    · rw [List.filterMap_cons_some h, List.nodup_cons] at hkey
      rcases List.mem_cons.mp hoth with rfl | hoth₀
      · rfl
      · exact absurd (hmem hoth₀ h') hkey.1
    · rcases List.mem_cons.mp hoth with rfl | hoth₀
      · rw [List.filterMap_cons_some h', List.nodup_cons] at hkey
        exact absurd (hmem hrow₀ h) hkey.1
      · exact ih (hkey.sublist ((List.sublist_cons_self _ _).filterMap key)) hrow₀ hoth₀

/-- Rows that no two of a table can be are one. -/
theorem eq_of_pairwise {R : α → α → Prop} {p : α → Prop} (h : rows.Pairwise R)
    (hclash : ∀ a b, p a → p b → ¬ R a b) (hrow : row ∈ rows) (hoth : other ∈ rows) (hp : p row)
    (hp' : p other) : row = other := by
  induction rows with
  | nil => cases hrow
  | cons first rows ih =>
    obtain ⟨hfst, h⟩ := List.pairwise_cons.mp h
    rcases List.mem_cons.mp hrow with rfl | hrow₀
    · rcases List.mem_cons.mp hoth with rfl | hoth₀
      · rfl
      · exact absurd (hfst other hoth₀) (hclash _ _ hp hp')
    · rcases List.mem_cons.mp hoth with rfl | hoth₀
      · exact absurd (hfst row hrow₀) (hclash _ _ hp' hp)
      · exact ih h hrow₀ hoth₀

/-- A condition that holds of one row, and only of rows with its key, matches one row. -/
theorem countP_eq_one (hkey : (rows.map key).Nodup) (hrow : row ∈ rows) (hcond : cond row = true)
    (honly : ∀ other ∈ rows, cond other = true → key other = key row) : rows.countP cond = 1 := by
  induction rows with
  | nil => cases hrow
  | cons first rows ih =>
    rw [List.map_cons, List.nodup_cons] at hkey
    rw [List.countP_cons]
    rcases List.mem_cons.mp hrow with rfl | hrow
    · have hrest : rows.countP cond = 0 := by
        rw [List.countP_eq_zero]
        intro other hoth hmatch
        rw [← honly other (List.mem_cons_of_mem _ hoth) hmatch] at hkey
        exact hkey.1 (List.mem_map_of_mem hoth)
      rw [hrest, hcond]
      rfl
    · have hfst : cond first = false := by
        rw [Bool.eq_false_iff]
        intro hmatch
        rw [honly first List.mem_cons_self hmatch] at hkey
        exact hkey.1 (List.mem_map_of_mem hrow)
      rw [ih hkey.2 hrow fun other hoth => honly other (List.mem_cons_of_mem _ hoth), hfst]
      rfl

theorem countP_key_le_one [BEq κ] [LawfulBEq κ] (hkey : (rows.map key).Nodup) (value : κ) :
    rows.countP (fun row => key row == value) ≤ 1 := by
  have hcnt : (rows.map key).count value = rows.countP fun row => key row == value :=
    List.countP_map
  rw [← hcnt]
  exact List.nodup_iff_count_le_one.mp hkey value

section InsertIgnore

variable {conflicts : α → α → Bool} {new : List α}

/-- `INSERT IGNORE INTO rows`: a row that conflicts with one of the table is left out. -/
def insertIgnore (conflicts : α → α → Bool) (rows new : List α) : List α :=
  new.foldl (fun rows row => if rows.any (conflicts row) then rows else rows ++ [row]) rows

theorem insertIgnore_cons : insertIgnore conflicts rows (row :: new) =
    insertIgnore conflicts (if rows.any (conflicts row) then rows else rows ++ [row]) new := rfl

/-- The rows of the table stay where they are. -/
theorem isPrefix_insertIgnore : rows <+: insertIgnore conflicts rows new := by
  induction new generalizing rows with
  | nil => exact List.prefix_rfl
  | cons first new ih =>
    rw [insertIgnore_cons]
    refine List.IsPrefix.trans ?_ ih
    split
    · exact List.prefix_rfl
    · exact List.prefix_append rows _

theorem subset_insertIgnore : rows ⊆ insertIgnore conflicts rows new :=
  isPrefix_insertIgnore.subset

theorem insertIgnore_singleton (h : rows.any (conflicts row) = false) :
    insertIgnore conflicts rows [row] = rows ++ [row] := by
  rw [insertIgnore_cons, h]
  rfl

/-- A row without a conflict makes some row of the insertion go in. -/
theorem exists_mem_insertIgnore (hrow : row ∈ new) (h : rows.any (conflicts row) = false) :
    ∃ inserted ∈ new, inserted ∈ insertIgnore conflicts rows new := by
  induction new with
  | nil => cases hrow
  | cons first new ih =>
    rw [insertIgnore_cons]
    cases hfst : rows.any (conflicts first) with
    | false =>
      refine ⟨first, List.mem_cons_self, ?_⟩
      rw [if_neg Bool.false_ne_true]
      exact subset_insertIgnore (List.mem_append_right _ (List.mem_singleton_self first))
    | true =>
      rcases List.mem_cons.mp hrow with rfl | hrow
      · rw [h] at hfst
        cases hfst
      · obtain ⟨inserted, hmem, hin⟩ := ih hrow
        exact ⟨inserted, List.mem_cons_of_mem _ hmem, hin⟩

/-- After the insertion of a row the table has its key. -/
theorem any_insertIgnore (hrefl : ∀ row, conflicts row row = true) (hrow : row ∈ new) :
    (insertIgnore conflicts rows new).any (conflicts row) = true := by
  induction new generalizing rows with
  | nil => cases hrow
  | cons first new ih =>
    rw [insertIgnore_cons]
    rcases List.mem_cons.mp hrow with rfl | hrow
    · split
      · next hany =>
        obtain ⟨other, hoth, hconf⟩ := List.any_eq_true.mp hany
        exact List.any_eq_true.mpr ⟨other, subset_insertIgnore hoth, hconf⟩
      · refine List.any_eq_true.mpr ⟨row, subset_insertIgnore ?_, hrefl row⟩
        exact List.mem_append_right _ (List.mem_singleton_self row)
    · exact ih hrow

/-- Rows whose keys are all taken change nothing. -/
theorem insertIgnore_of_forall (h : ∀ row ∈ new, rows.any (conflicts row) = true) :
    insertIgnore conflicts rows new = rows := by
  induction new with
  | nil => rfl
  | cons first new ih =>
    rw [insertIgnore_cons, h first List.mem_cons_self]
    exact ih fun row hrow => h row (List.mem_cons_of_mem _ hrow)

/-- Rows that do not get in each other's way are inserted unless the table has their keys. -/
theorem insertIgnore_eq (hnew : new.Pairwise fun a b => conflicts b a = false) :
    insertIgnore conflicts rows new =
      rows ++ new.filter fun row => !rows.any (conflicts row) := by
  induction new generalizing rows with
  | nil => rw [List.filter_nil, List.append_nil]; rfl
  | cons row new ih =>
    obtain ⟨hrow, hnew⟩ := List.pairwise_cons.mp hnew
    rw [insertIgnore_cons, ih hnew]
    cases hany : rows.any (conflicts row) with
    | true => simp [hany]
    | false =>
      have hsame : (new.filter fun other => !(rows ++ [row]).any (conflicts other)) =
          new.filter fun other => !rows.any (conflicts other) := by
        refine List.filter_congr fun other hoth => ?_
        rw [List.any_append, List.any_cons, hrow other hoth]
        simp
      rw [if_neg Bool.false_ne_true, hsame, List.filter_cons_of_pos (by simp [hany]),
        List.append_assoc, List.singleton_append]

/-- The table keeps its keys. -/
theorem insertIgnore_pairwise (hsymm : ∀ a b, conflicts a b = conflicts b a)
    (hrows : rows.Pairwise fun a b => conflicts a b = false) :
    (insertIgnore conflicts rows new).Pairwise fun a b => conflicts a b = false := by
  induction new generalizing rows with
  | nil => exact hrows
  | cons row new ih =>
    rw [insertIgnore_cons]
    refine ih ?_
    split
    · exact hrows
    · next hany =>
      refine List.pairwise_append.mpr ⟨hrows, List.pairwise_singleton _ _, ?_⟩
      intro other hoth last hlast
      rw [List.mem_singleton.mp hlast, hsymm, Bool.eq_false_iff]
      exact fun h => hany (List.any_eq_true.mpr ⟨other, hoth, h⟩)

theorem mem_of_mem_insertIgnore (h : row ∈ insertIgnore conflicts rows new) :
    row ∈ rows ∨ row ∈ new := by
  induction new generalizing rows with
  | nil => exact .inl h
  | cons first new ih =>
    rw [insertIgnore_cons] at h
    rcases ih h with h | h
    · split at h
      · exact .inl h
      · rcases List.mem_append.mp h with h | h
        · exact .inl h
        · rw [List.mem_singleton.mp h]
          exact .inr List.mem_cons_self
    · exact .inr (List.mem_cons_of_mem _ h)

theorem insertIgnore_nil_eq_nil_iff : insertIgnore conflicts [] new = [] ↔ new = [] := by
  constructor
  · intro h
    cases new with
    | nil => rfl
    | cons first new =>
      have hfst : first ∈ insertIgnore conflicts [] (first :: new) := by
        rw [insertIgnore_cons]
        exact subset_insertIgnore (by simp)
      rw [h] at hfst
      cases hfst
  · rintro rfl
    rfl

variable [DecidableEq κ]

/-- Into an empty table goes at most one row when all rows have one key. -/
theorem length_insertIgnore_le_one_iff :
    (insertIgnore (fun a b => key a = key b) [] new).length ≤ 1 ↔
      ∀ a ∈ new, ∀ b ∈ new, key a = key b := by
  constructor
  · intro h a ha b hb
    have hin : ∀ row ∈ new, ∃ other ∈ insertIgnore (fun a b => key a = key b) [] new,
        key row = key other := fun row hrow => by
      have hany : (insertIgnore (fun a b => key a = key b) [] new).any
          (fun other => key row = key other) = true :=
        any_insertIgnore (fun _ => decide_eq_true rfl) hrow
      simpa using hany
    obtain ⟨x, hx, hax⟩ := hin a ha
    obtain ⟨y, hy, hby⟩ := hin b hb
    obtain rfl : x = y := by
      match hlist : insertIgnore (fun a b => key a = key b) [] new with
      | [] => rw [hlist] at hx; cases hx
      | [_] =>
        rw [hlist] at hx hy
        rw [List.mem_singleton.mp hx, List.mem_singleton.mp hy]
      | _ :: _ :: _ => rw [hlist] at h; simp at h
    rw [hax, hby]
  · intro h
    have hpair : (insertIgnore (fun a b => key a = key b) [] new).Pairwise fun a b =>
        decide (key a = key b) = false :=
      insertIgnore_pairwise (fun _ _ => decide_eq_decide.mpr eq_comm) .nil
    match hlist : insertIgnore (fun a b => key a = key b) [] new with
    | [] => exact Nat.zero_le 1
    | [_] => exact Nat.le_refl 1
    | first :: second :: rest =>
      rw [hlist] at hpair
      have hmem : ∀ row ∈ first :: second :: rest, row ∈ new := fun row hrow =>
        (mem_of_mem_insertIgnore (hlist ▸ hrow)).resolve_left List.not_mem_nil
      have hne := (List.pairwise_cons.mp hpair).1 second List.mem_cons_self
      exact absurd (h first (hmem _ (by simp)) second (hmem _ (by simp))) (of_decide_eq_false hne)

theorem mem_insertIgnore_nil_iff [DecidableEq α] :
    row ∈ insertIgnore (fun a b => a = b) [] new ↔ row ∈ new := by
  constructor
  · exact fun h => (mem_of_mem_insertIgnore h).resolve_left List.not_mem_nil
  · intro h
    have hany : (insertIgnore (fun a b : α => a = b) [] new).any (fun other => row = other) = true :=
      any_insertIgnore (fun _ => decide_eq_true rfl) h
    simpa using hany

end InsertIgnore

section Filter

variable {p : α → Bool}

/-- An update of rows that then fail a condition withdraws rows from it. -/
theorem filter_updateWhere_sublist (hset : ∀ row, cond row = true → p (set row) = false) :
    ((updateWhere cond set rows).filter p).Sublist (rows.filter p) := by
  induction rows with
  | nil => exact .slnil
  | cons row rows ih =>
    rw [updateWhere, List.map_cons, List.filter_cons, List.filter_cons, ← updateWhere]
    cases hrow : cond row with
    | true =>
      rw [if_pos rfl, hset row hrow, if_neg Bool.false_ne_true]
      split
      · exact ih.cons _
      · exact ih
    | false =>
      rw [if_neg Bool.false_ne_true]
      split
      · exact ih.cons_cons _
      · exact ih

/-- And when they failed it before, it leaves the condition's rows alone. -/
theorem filter_updateWhere_eq (hset : ∀ row, cond row = true → p (set row) = false)
    (hcond : ∀ row ∈ rows, cond row = true → p row = false) :
    (updateWhere cond set rows).filter p = rows.filter p := by
  induction rows with
  | nil => rfl
  | cons row rows ih =>
    have ih := ih fun other hoth => hcond other (List.mem_cons_of_mem _ hoth)
    rw [updateWhere, List.map_cons, List.filter_cons, List.filter_cons, ← updateWhere, ih]
    cases hrow : cond row with
    | true =>
      rw [if_pos rfl, hset row hrow, hcond row List.mem_cons_self hrow, if_neg Bool.false_ne_true,
        if_neg Bool.false_ne_true]
    | false => rw [if_neg Bool.false_ne_true]

theorem any_updateWhere (hset : ∀ row, p (set row) = p row) :
    (updateWhere cond set rows).any p = rows.any p := by
  rw [updateWhere, List.any_map]
  refine congrArg rows.any (funext fun row => ?_)
  rw [Function.comp_apply]
  split
  · exact hset row
  · rfl

theorem countP_updateWhere_lt (hset : ∀ row, cond row = true → p (set row) = false)
    (h : ∃ row ∈ rows, cond row = true ∧ p row = true) :
    (updateWhere cond set rows).countP p < rows.countP p := by
  induction rows with
  | nil => simp at h
  | cons first rows ih =>
    have hle : (updateWhere cond set rows).countP p ≤ rows.countP p := by
      rw [List.countP_eq_length_filter, List.countP_eq_length_filter]
      exact (filter_updateWhere_sublist hset).length_le
    rw [updateWhere, List.map_cons, List.countP_cons, List.countP_cons, ← updateWhere]
    by_cases hfst : cond first = true
    · rw [if_pos hfst, hset first hfst, if_neg Bool.false_ne_true]
      by_cases hp : p first = true
      · rw [if_pos hp]
        exact Nat.lt_succ_of_le hle
      · obtain ⟨row, hrow, hcond, hprow⟩ := h
        rcases List.mem_cons.mp hrow with rfl | hrow
        · exact absurd hprow hp
        · exact Nat.lt_add_right _ (ih ⟨row, hrow, hcond, hprow⟩)
    · rw [if_neg hfst]
      obtain ⟨row, hrow, hcond, hprow⟩ := h
      rcases List.mem_cons.mp hrow with rfl | hrow
      · exact absurd hcond hfst
      · exact Nat.add_lt_add_right (ih ⟨row, hrow, hcond, hprow⟩) _

end Filter

end ServerRS.Lib

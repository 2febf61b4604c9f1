import Mathlib.Data.List.Nodup

/-!
# A log with a mark

The records of a `CutLog` were written one after the other. A first part has been dropped,
of the stored records a first part is covered by the mark, the others are pending; the
first `durable` stored records survive a crash. Covered records are durable, so that a
crash never takes away the record that the mark points to.
-/

namespace ServerRS.Lib

structure CutLog (ρ : Type) where
  dropped : List ρ
  covered : List ρ
  pending : List ρ
  durable : ℕ
  covered_le : covered.length ≤ durable
  durable_le : durable ≤ (covered ++ pending).length

namespace CutLog

variable {ρ κ : Type} (log : CutLog ρ)

def empty : CutLog ρ := ⟨[], [], [], 0, Nat.le_refl 0, Nat.zero_le _⟩

def stored : List ρ := log.covered ++ log.pending

theorem durable_le_stored : log.durable ≤ log.stored.length := log.durable_le

/-- Every record from the first one on. -/
def all : List ρ := log.dropped ++ log.stored

/-- The records up to the mark. -/
def marked : List ρ := log.dropped ++ log.covered

/-- The pending records that survive a crash. -/
def durablePending : List ρ := log.pending.take (log.durable - log.covered.length)

/-! ## Operations -/

def append (record : ρ) : CutLog ρ where
  dropped := log.dropped
  covered := log.covered
  pending := log.pending ++ [record]
  durable := log.durable
  covered_le := log.covered_le
  durable_le := by
    have := log.durable_le
    rw [List.length_append] at this ⊢
    rw [List.length_append]
    omega

/-- The first `n` stored records become durable. -/
def sync (n : ℕ) (hlow : log.durable ≤ n) (hhigh : n ≤ log.stored.length) : CutLog ρ where
  dropped := log.dropped
  covered := log.covered
  pending := log.pending
  durable := n
  covered_le := Nat.le_trans log.covered_le hlow
  durable_le := hhigh

/-- Every stored record becomes durable. -/
def syncAll : CutLog ρ := log.sync log.stored.length log.durable_le (Nat.le_refl _)

/-- The mark moves over `n` more records. -/
def advance (n : ℕ) (h : log.covered.length + n ≤ log.durable) : CutLog ρ where
  dropped := log.dropped
  covered := log.covered ++ log.pending.take n
  pending := log.pending.drop n
  durable := log.durable
  covered_le := by
    rw [List.length_append, List.length_take]
    omega
  durable_le := by
    rw [List.append_assoc, List.take_append_drop]
    exact log.durable_le

/-- The covered records are dropped; what stays has been written anew. -/
def compact : CutLog ρ where
  dropped := log.dropped ++ log.covered
  covered := []
  pending := log.pending
  durable := log.pending.length
  covered_le := Nat.zero_le _
  durable_le := Nat.le_refl _

/-- A crash leaves the first `n` stored records. -/
def crash (n : ℕ) (hlow : log.durable ≤ n) (hhigh : n ≤ log.stored.length) : CutLog ρ where
  dropped := log.dropped
  covered := log.covered
  pending := log.pending.take (n - log.covered.length)
  durable := n
  covered_le := Nat.le_trans log.covered_le hlow
  durable_le := by
    rw [stored, List.length_append] at hhigh
    rw [List.length_append, List.length_take]
    omega

@[simp] theorem stored_append (record : ρ) :
    (log.append record).stored = log.stored ++ [record] := by
  rw [stored, stored, List.append_assoc]
  rfl

@[simp] theorem all_append (record : ρ) : (log.append record).all = log.all ++ [record] := by
  rw [all, stored_append, all, List.append_assoc]
  rfl

@[simp] theorem stored_advance {n : ℕ} (h : log.covered.length + n ≤ log.durable) :
    (log.advance n h).stored = log.stored := by
  rw [stored, advance, List.append_assoc, List.take_append_drop]
  rfl

@[simp] theorem all_advance {n : ℕ} (h : log.covered.length + n ≤ log.durable) :
    (log.advance n h).all = log.all := by
  rw [all, stored_advance]
  rfl

@[simp] theorem marked_advance {n : ℕ} (h : log.covered.length + n ≤ log.durable) :
    (log.advance n h).marked = log.marked ++ log.pending.take n := by
  rw [marked, marked, List.append_assoc]
  rfl

@[simp] theorem all_compact : log.compact.all = log.all := by
  rw [all, all, stored, stored, compact, List.append_assoc]
  rfl

@[simp] theorem marked_compact : log.compact.marked = log.marked := List.append_nil _

variable {n : ℕ}

theorem stored_crash (hlow : log.durable ≤ n) (hhigh : n ≤ log.stored.length) :
    (log.crash n hlow hhigh).stored = log.stored.take n := by
  have := log.covered_le
  rw [stored, stored, List.take_append, List.take_of_length_le (by omega)]
  rfl

theorem all_crash_sublist (hlow : log.durable ≤ n) (hhigh : n ≤ log.stored.length) :
    (log.crash n hlow hhigh).all.Sublist log.all := by
  rw [all, stored_crash, all]
  exact List.Sublist.append_left (List.take_sublist n _) log.dropped

theorem all_eq_marked : log.all = log.marked ++ log.pending := by
  rw [all, stored, marked, List.append_assoc]

theorem stored_sublist_all : log.stored.Sublist log.all := List.sublist_append_right _ _

/-! ## Durable records stay -/

theorem durablePending_append (record : ρ) :
    log.durablePending.Sublist (log.append record).durablePending := by
  have h : (log.append record).durablePending =
      (log.pending ++ [record]).take (log.durable - log.covered.length) := rfl
  have := log.durable_le
  rw [List.length_append] at this
  rw [h, durablePending, List.take_append_of_le_length (by omega)]

theorem durablePending_sync (hlow : log.durable ≤ n) (hhigh : n ≤ log.stored.length) :
    log.durablePending.Sublist (log.sync n hlow hhigh).durablePending := by
  show (log.pending.take _).Sublist (log.pending.take (n - log.covered.length))
  exact (List.take_prefix_take_left (by omega)).sublist

theorem durablePending_syncAll : log.syncAll.durablePending = log.pending := by
  show log.pending.take (log.stored.length - log.covered.length) = log.pending
  rw [stored, List.length_append]
  exact List.take_of_length_le (by omega)

/-- A durable pending record is passed by the mark or stays durable and pending. -/
theorem mem_durablePending_advance (h : log.covered.length + n ≤ log.durable) {record : ρ}
    (hmem : record ∈ log.durablePending) :
    record ∈ log.pending.take n ∨ record ∈ (log.advance n h).durablePending := by
  have hlen := log.durable_le
  rw [List.length_append] at hlen
  rw [durablePending, ← List.take_append_drop n (log.pending.take _), List.mem_append,
    List.take_take, Nat.min_eq_left (by omega), List.drop_take] at hmem
  refine hmem.imp_right fun hmem => ?_
  show record ∈ (log.pending.drop n).take (log.durable - (log.covered ++ log.pending.take n).length)
  rw [List.length_append, List.length_take, Nat.min_eq_left (by omega)]
  rwa [Nat.sub_sub] at hmem

theorem durablePending_compact : log.durablePending.Sublist log.compact.durablePending := by
  have h : log.compact.durablePending = log.pending := List.take_of_length_le (by simp [compact])
  rw [h]
  exact List.take_sublist _ _

theorem durablePending_crash (hlow : log.durable ≤ n) (hhigh : n ≤ log.stored.length) :
    log.durablePending.Sublist (log.crash n hlow hhigh).durablePending := by
  show (log.pending.take _).Sublist ((log.pending.take _).take (n - log.covered.length))
  rw [List.take_take, Nat.min_self]
  exact (List.take_prefix_take_left (by omega)).sublist

/-! ## Finding the mark again -/

/-- The last record of a first part is found at the end of this part. -/
theorem findIdx?_last [DecidableEq κ] (key : ρ → κ) {first rest : List ρ} {last : ρ}
    (hlast : first.getLast? = some last) (hnd : ((first ++ rest).map key).Nodup) :
    (first ++ rest).findIdx? (fun record => key record = key last) = some (first.length - 1) := by
  obtain ⟨init, rfl⟩ := List.getLast?_eq_some_iff.mp hlast
  rw [List.findIdx?_eq_some_iff_getElem]
  refine ⟨by simp, by simp, fun j hj => ?_⟩
  have hj' : j < init.length := by simpa using hj
  have hj'' : j < (init ++ [last]).length := Nat.lt_trans hj' (by simp)
  rw [List.getElem_append_left hj'', List.getElem_append_left hj']
  rw [List.append_assoc, List.map_append, List.nodup_append] at hnd
  have hne := hnd.2.2 (key init[j]) (List.mem_map_of_mem (List.getElem_mem hj')) (key last)
    (List.mem_map_of_mem (by simp))
  simpa using hne

end CutLog

end ServerRS.Lib

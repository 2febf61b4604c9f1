import Mathlib.Data.List.Range
import ServerRS.Lib.Folds

/-!
# Numbered labels

A table that hides values behind labels `stem_1`, `stem_2`, …, in the order in which they are given
out. A value can get a label without a look at the table (`register`), or the label it already has
(`reuse`). Different labels stand for different values exactly when no value was registered twice
(`injective_iff`), and `reuse` never registers twice (`nodup_reuse`).

The table is a hash map in a program: which of several labels of one value a search finds is a
`MapOrder`.
-/

namespace ServerRS.Lib

/-- The order in which a hash map is iterated. -/
structure MapOrder (E : Type) where
  iter : List E → List E
  perm : ∀ entries, (iter entries).Perm entries

theorem MapOrder.mem_iter {E : Type} {order : MapOrder E} {entries : List E} {e : E} :
    e ∈ order.iter entries ↔ e ∈ entries :=
  (order.perm entries).mem_iff

/-- `format!("{stem}_{n}")`. -/
def numberedLabel (stem : String) (n : ℕ) : String := stem ++ "_" ++ toString n

theorem numberedLabel_injective (stem : String) : Function.Injective (numberedLabel stem) := by
  intro a b h
  have hdigits : (toString a).toList = (toString b).toList := by
    simpa [numberedLabel] using congrArg String.toList h
  simp only [Nat.toString_eq_repr, Nat.toList_repr] at hdigits
  rw [← Nat.ofDigitChars_ten_toDigits (n := a), hdigits, Nat.ofDigitChars_ten_toDigits]

/-- The labels given out so far. -/
structure Labels (stem : String) (E : Type) where
  next : ℕ
  entries : List (String × E)
  entries_fst : entries.map Prod.fst = (List.range next).map fun n => numberedLabel stem (n + 1)

namespace Labels

variable {stem : String} {E : Type}

def empty : Labels stem E := ⟨0, [], rfl⟩

def labels (table : Labels stem E) : List String := table.entries.map Prod.fst

/-- The values, each as often as it was registered. -/
def values (table : Labels stem E) : List E := table.entries.map Prod.snd

/-- The value behind a label. -/
def resolve (table : Labels stem E) (label : String) : Option E :=
  (table.entries.find? fun entry => entry.1 = label).map Prod.snd

/-- A new label for a value. -/
def register (table : Labels stem E) (e : E) : String × Labels stem E :=
  (numberedLabel stem (table.next + 1),
    { next := table.next + 1
      entries := table.entries ++ [(numberedLabel stem (table.next + 1), e)]
      entries_fst := by
        rw [List.map_append, table.entries_fst, List.range_succ, List.map_append]
        rfl })

/-- The label a value has, or else a new one. -/
def reuse [DecidableEq E] (order : MapOrder (String × E)) (table : Labels stem E) (e : E) :
    String × Labels stem E :=
  match (order.iter table.entries).find? fun entry => entry.2 = e with
  | some entry => (entry.1, table)
  | none => table.register e

/-- `entry(key).or_insert_with(…)`: the label of the value with this key, or else a new one. -/
def intern {κ : Type} [DecidableEq κ] (key : E → κ) (table : Labels stem E) (e : E) :
    String × Labels stem E :=
  match table.entries.find? fun entry => key entry.2 = key e with
  | some entry => (entry.1, table)
  | none => table.register e

variable {table : Labels stem E} {label : String} {e : E}

theorem nodup_labels (table : Labels stem E) : table.labels.Nodup := by
  rw [labels, table.entries_fst]
  refine List.nodup_range.map fun a b h => ?_
  exact Nat.succ.inj (numberedLabel_injective stem h)

theorem resolve_eq_some : table.resolve label = some e ↔ (label, e) ∈ table.entries := by
  unfold resolve
  constructor
  · intro h
    obtain ⟨entry, hent, rfl⟩ := Option.map_eq_some_iff.mp h
    have hlabel : entry.1 = label := by simpa using List.find?_some hent
    subst hlabel
    exact List.mem_of_find?_eq_some hent
  · intro h
    have hfind := find?_key table.nodup_labels h
    rw [hfind]
    rfl

theorem mem_labels : label ∈ table.labels ↔ ∃ e, table.resolve label = some e := by
  simp only [resolve_eq_some, labels, List.mem_map, Prod.exists, exists_and_right, exists_eq_right]

/-- Different labels stand for different values iff no value has two labels. -/
theorem injective_iff : (∀ label ∈ table.labels, ∀ label' ∈ table.labels,
    table.resolve label = table.resolve label' → label = label') ↔ table.values.Nodup := by
  have hpairs : table.values.Nodup ↔
      table.entries.Pairwise fun entry entry' => entry.2 ≠ entry'.2 := List.pairwise_map
  have hdist : table.entries.Pairwise fun entry entry' => entry.1 ≠ entry'.1 :=
    List.pairwise_map.mp table.nodup_labels
  rw [hpairs]
  constructor
  · intro h
    refine hdist.imp_of_mem fun {entry entry'} hent hent' hne heq => hne ?_
    refine h entry.1 (List.mem_map_of_mem hent) entry'.1 (List.mem_map_of_mem hent') ?_
    rw [resolve_eq_some.mpr hent, resolve_eq_some.mpr hent', heq]
  · intro h label hlabel label' hlabel' heq
    obtain ⟨e, he⟩ := mem_labels.mp hlabel
    have he' := heq ▸ he
    exact congrArg Prod.fst
      (eq_of_key_eq (hpairs.mpr h) (resolve_eq_some.mp he) (resolve_eq_some.mp he') rfl)

/-! ## What each operation does -/

@[simp] theorem labels_register : (table.register e).2.labels =
    table.labels ++ [(table.register e).1] := by
  simp [labels, register]

@[simp] theorem values_register : (table.register e).2.values = table.values ++ [e] := by
  simp [values, register]

section Reuse

variable [DecidableEq E] {order : MapOrder (String × E)}

/-- A value that has a label keeps it. -/
theorem reuse_cases (order : MapOrder (String × E)) (table : Labels stem E) (e : E) :
    ((table.reuse order e).2 = table ∧ table.resolve (table.reuse order e).1 = some e) ∨
      (e ∉ table.values ∧ table.reuse order e = table.register e) := by
  unfold reuse
  split
  · next entry hfind =>
    have he : entry.2 = e := by simpa using List.find?_some hfind
    subst he
    exact .inl ⟨rfl, resolve_eq_some.mpr (MapOrder.mem_iter.mp (List.mem_of_find?_eq_some hfind))⟩
  · next hfind =>
    refine .inr ⟨fun hmem => ?_, rfl⟩
    obtain ⟨entry, hent, rfl⟩ := List.mem_map.mp hmem
    exact List.find?_eq_none.mp hfind entry (MapOrder.mem_iter.mpr hent) (decide_eq_true rfl)

theorem nodup_reuse : (table.reuse order e).2.values.Nodup ↔ table.values.Nodup := by
  rcases reuse_cases order table e with ⟨htable, -⟩ | ⟨hnew, heq⟩
  · rw [htable]
  · rw [heq, values_register]
    constructor
    · exact List.Nodup.of_append_left
    · intro h
      rw [← List.concat_eq_append]
      exact h.concat hnew

theorem mem_labels_reuse : label ∈ (table.reuse order e).2.labels ↔
    label ∈ table.labels ∨ label = (table.reuse order e).1 := by
  rcases reuse_cases order table e with ⟨htable, hlabel⟩ | ⟨-, heq⟩
  · rw [htable]
    constructor
    · exact .inl
    · rintro (hmem | rfl)
      · exact hmem
      · exact mem_labels.mpr ⟨e, hlabel⟩
  · rw [heq, labels_register, List.mem_append, List.mem_singleton]

end Reuse

end Labels

end ServerRS.Lib

import Std.Data.TreeMap
import Std.Data.TreeMap.Lemmas
import ServerRS.Lib.Except

/-!
# Loops that fill a map

`fill f l map` is `for a in l { let (k, v) = f(a)?; map.insert(k, v); }`. Where the elements
of `l` have different keys, the map holds afterwards what `f` made of each (`fill_get`), and what
it held before for the other keys. The loop goes through only when `f` does on every
element (`fill_mem_ok`), and fails with an error of `f` (`fill_error`).
-/

namespace ServerRS.Lib

open Lib.Except

variable {α κ ν ε : Type} [Ord κ]

def fill (f : α → Except ε (κ × ν)) (l : List α) (map : Std.TreeMap κ ν) :
    Except ε (Std.TreeMap κ ν) :=
  l.foldlM (fun map a => do
    let entry ← f a
    return map.insert entry.1 entry.2) map

variable {f : α → Except ε (κ × ν)} {l : List α} {map result : Std.TreeMap κ ν}

theorem fill_cons_ok {a : α} (h : fill f (a :: l) map = .ok result) :
    ∃ entry, f a = .ok entry ∧ fill f l (map.insert entry.1 entry.2) = .ok result := by
  unfold fill at h
  rw [List.foldlM_cons] at h
  obtain ⟨next, hnext, h⟩ := bind_ok h
  obtain ⟨entry, hent, hnext⟩ := bind_ok hnext
  cases hnext
  exact ⟨entry, hent, h⟩

theorem fill_mem_ok (h : fill f l map = .ok result) : ∀ a ∈ l, ∃ entry, f a = .ok entry := by
  induction l generalizing map with
  | nil => exact fun a ha => absurd ha List.not_mem_nil
  | cons a l ih =>
    obtain ⟨entry, hent, h⟩ := fill_cons_ok h
    rw [List.forall_mem_cons]
    exact ⟨⟨entry, hent⟩, ih h⟩

theorem fill_error {e : ε} (h : fill f l map = .error e) : ∃ a ∈ l, f a = .error e := by
  induction l generalizing map with
  | nil => cases h
  | cons a l ih =>
    unfold fill at h
    rw [List.foldlM_cons] at h
    cases ha : f a with
    | error e' =>
      rw [ha] at h
      cases h
      exact ⟨a, List.mem_cons_self, ha⟩
    | ok entry =>
      rw [ha] at h
      obtain ⟨b, hb, hfb⟩ := ih h
      exact ⟨b, List.mem_cons_of_mem a hb, hfb⟩

/-- A loop whose body does not fail. -/
theorem fill_pure (g : α → κ × ν) (l : List α) (map : Std.TreeMap κ ν) :
    fill (fun a => (.ok (g a) : Except ε (κ × ν))) l map =
      .ok (l.foldl (fun map a => map.insert (g a).1 (g a).2) map) :=
  List.foldlM_pure

variable [Std.TransOrd κ] {k : κ}

theorem mem_iff_exists_get : k ∈ map ↔ ∃ v, map[k]? = some v := by
  rw [Std.TreeMap.mem_iff_isSome_getElem?, Option.isSome_iff_exists]

/-- `extend` with entries for other keys. -/
theorem union_get {added : Std.TreeMap κ ν} (hnew : ∀ k ∈ added, k ∉ map) {v : ν} :
    (map ∪ added)[k]? = some v ↔ map[k]? = some v ∨ added[k]? = some v := by
  rw [Std.TreeMap.getElem?_union]
  cases hadded : added[k]? with
  | none => simp
  | some w =>
    have hnone := Std.TreeMap.getElem?_eq_none (hnew k (mem_iff_exists_get.mpr ⟨w, hadded⟩))
    simp [hnone]

variable [Std.LawfulEqOrd κ]

theorem fill_lookup (h : fill f l map = .ok result)
    (hkeys : l.Pairwise fun a b => ∀ x y, f a = .ok x → f b = .ok y → x.1 ≠ y.1) (k : κ) (v : ν) :
    result[k]? = some v ↔ (∃ a ∈ l, f a = .ok (k, v)) ∨
      (∀ a ∈ l, ∀ w, f a ≠ .ok (k, w)) ∧ map[k]? = some v := by
  induction l generalizing map with
  | nil =>
    cases h
    simp
  | cons a l ih =>
    obtain ⟨entry, hent, h⟩ := fill_cons_ok h
    rw [List.pairwise_cons] at hkeys
    rw [ih h hkeys.2, Std.TreeMap.getElem?_insert, List.exists_mem_cons_iff, List.forall_mem_cons]
    by_cases hk : entry.1 = k
    · have hothers : ∀ b ∈ l, ∀ w, f b ≠ .ok (k, w) := fun b hb w hfb =>
        hkeys.1 b hb entry (k, w) hent hfb hk
      have hnone : ¬∃ b ∈ l, f b = .ok (k, v) := fun ⟨b, hb, hfb⟩ => hothers b hb v hfb
      have hself : f a = .ok (k, v) ↔ entry.2 = v := by
        rw [hent]
        constructor
        · intro h
          exact congrArg Prod.snd (Except.ok.inj h)
        · rintro rfl
          rw [← hk]
      have hnotAll : ¬∀ w, f a ≠ .ok (k, w) := fun hall => by
        refine hall entry.2 ?_
        rw [hent, ← hk]
      rw [if_pos (Std.LawfulEqOrd.compare_eq_iff_eq.mpr hk), Option.some_inj, hself]
      simp only [hnone, hnotAll, false_and, or_false, false_or, and_iff_right_iff_imp]
      exact fun _ => hothers
    · have hself : ∀ w, f a ≠ .ok (k, w) := fun w hfa => by
        rw [hent] at hfa
        exact hk (congrArg Prod.fst (Except.ok.inj hfa))
      have hsome : ¬f a = .ok (k, v) := hself v
      rw [if_neg (mt Std.LawfulEqOrd.compare_eq_iff_eq.mp hk)]
      simp [hsome, hself]

/-- The loop over an empty map. -/
theorem fill_get (h : fill f l ∅ = .ok result)
    (hkeys : l.Pairwise fun a b => ∀ x y, f a = .ok x → f b = .ok y → x.1 ≠ y.1) {v : ν} :
    result[k]? = some v ↔ ∃ a ∈ l, f a = .ok (k, v) := by
  rw [fill_lookup h hkeys]
  simp

/-- The loop over the entries of a map, where different keys lead to different keys. -/
theorem fill_map_get {κ' ν' : Type} [Ord κ'] [Std.TransOrd κ'] [Std.LawfulEqOrd κ']
    {source : Std.TreeMap κ' ν'} {f : κ' × ν' → Except ε (κ × ν)}
    (h : fill f source.toList ∅ = .ok result)
    (hf : ∀ a b x y, f a = .ok x → f b = .ok y → x.1 = y.1 → a.1 = b.1) {v : ν} :
    result[k]? = some v ↔
      ∃ (k' : κ') (v' : ν'), source[k']? = some v' ∧ f (k', v') = .ok (k, v) := by
  rw [fill_get h]
  · constructor
    · rintro ⟨entry, hent, hok⟩
      exact ⟨entry.1, entry.2, Std.TreeMap.mem_toList_iff_getElem?_eq_some.mp hent, hok⟩
    · rintro ⟨k', v', hent, hok⟩
      exact ⟨(k', v'), Std.TreeMap.mem_toList_iff_getElem?_eq_some.mpr hent, hok⟩
  · refine Std.TreeMap.distinct_keys_toList.imp ?_
    intro a b hne x y hx hy hsame
    exact hne (Std.LawfulEqOrd.compare_eq_iff_eq.mpr (hf a b x y hx hy hsame))

end ServerRS.Lib

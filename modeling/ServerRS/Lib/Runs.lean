import Mathlib.Data.List.Dedup
import Mathlib.Data.List.DropRight
import Mathlib.Data.List.Induction

/-!
# Runs of equal keys

A list falls into runs of elements with one key. `lastRun` is the one at its end, `runHeads` are the
elements that the runs begin with; both grow by an element at the end of the list in one of two ways.
So do the last elements of a list (`rtake_concat`) and its first distinct ones (`take_firsts_concat`),
which need no more than the elements they kept.
-/

namespace ServerRS.Lib

variable {α β : Type} {key : α → β} {list suffix : List α} {x : α} {n : ℕ}

section Runs

variable [DecidableEq β]

/-- The longest end of the list whose elements have one key. -/
def lastRun (key : α → β) (list : List α) : List α :=
  match list.getLast? with
  | none => []
  | some last => list.rtakeWhile fun x => decide (key x = key last)

/-- The first element of each run. -/
def runHeads (key : α → β) (list : List α) : List α :=
  list.foldl (fun heads x => if heads.getLast?.map key = some (key x) then heads else heads ++ [x]) []

theorem lastRun_snoc : lastRun key (list ++ [x]) =
    if list.getLast?.map key = some (key x) then lastRun key list ++ [x] else [x] := by
  have hpos : decide (key x = key x) = true := decide_eq_true rfl
  rw [lastRun, List.getLast?_concat]
  dsimp only
  rw [List.rtakeWhile_concat, if_pos hpos, lastRun]
  cases hlast : list.getLast? with
  | none =>
    rw [List.getLast?_eq_none_iff.mp hlast]
    rfl
  | some last =>
    rw [Option.map_some]
    split
    · next hsame =>
      show _ = (list.rtakeWhile fun y => decide (key y = key last)) ++ [x]
      rw [Option.some.inj hsame]
    · next hoth =>
      have hnil : (list.rtakeWhile fun y => decide (key y = key x)) = [] := by
        rw [List.rtakeWhile_eq_nil_iff]
        intro hne hkey
        rw [List.getLast?_eq_some_getLast hne, Option.some_inj] at hlast
        rw [hlast] at hkey
        exact hoth (congrArg some (of_decide_eq_true hkey))
      rw [hnil]
      rfl

theorem runHeads_snoc : runHeads key (list ++ [x]) =
    if (runHeads key list).getLast?.map key = some (key x) then runHeads key list
    else runHeads key list ++ [x] := by
  rw [runHeads, List.foldl_append]
  rfl

theorem lastRun_suffix : lastRun key list <:+ list := by
  rw [lastRun]
  split
  · exact List.nil_suffix
  · exact List.rtakeWhile_suffix _ _

theorem key_of_mem_lastRun (h : x ∈ lastRun key list) : list.getLast?.map key = some (key x) := by
  rw [lastRun] at h
  split at h
  · cases h
  · next last hlast =>
    have hkey := List.mem_rtakeWhile_imp h
    rw [hlast, Option.map_some, of_decide_eq_true hkey]

theorem lastRun_ne_nil (hne : list ≠ []) : lastRun key list ≠ [] := by
  obtain ⟨rest, last, rfl⟩ := (List.eq_nil_or_concat list).resolve_left hne
  rw [List.concat_eq_append, lastRun_snoc]
  split
  · exact List.append_ne_nil_of_right_ne_nil _ (List.cons_ne_nil _ _)
  · exact List.cons_ne_nil _ _

/-- The last head has the key of the last element, and begins the last run. -/
theorem getLast?_runHeads : (runHeads key list).getLast?.map key = list.getLast?.map key ∧
    (runHeads key list).getLast? = (lastRun key list).head? := by
  induction list using List.reverseRecOn with
  | nil => exact ⟨rfl, rfl⟩
  | append_singleton list x ih =>
    rw [runHeads_snoc, lastRun_snoc, ih.1, List.getLast?_concat]
    split
    · next hsame =>
      have hne : lastRun key list ≠ [] := lastRun_ne_nil fun hnil => by
        rw [hnil] at hsame
        cases hsame
      rw [ih.1, ih.2, List.head?_append_of_ne_nil _ hne]
      exact ⟨hsame, rfl⟩
    · rw [List.getLast?_concat]
      exact ⟨rfl, rfl⟩

/-- The ends of the list that have one key are the ends of the last run. -/
theorem forall_suffix_iff (h : suffix <:+ list) :
    (∀ x ∈ suffix, list.getLast?.map key = some (key x)) ↔ suffix <:+ lastRun key list := by
  constructor
  · intro hall
    refine List.suffix_of_suffix_length_le h lastRun_suffix ?_
    rw [lastRun]
    cases hlast : list.getLast? with
    | none =>
      rw [List.getLast?_eq_none_iff.mp hlast] at h
      rw [List.suffix_nil.mp h]
    | some last =>
      obtain ⟨front, rfl⟩ := h
      rw [hlast] at hall
      have hkey : ∀ x ∈ suffix.reverse, decide (key x = key last) = true := fun x hx =>
        decide_eq_true (Option.some.inj (hall x (List.mem_reverse.mp hx))).symm
      dsimp only
      rw [List.rtakeWhile, List.reverse_append, List.takeWhile_append_of_pos hkey,
        List.reverse_append, List.reverse_reverse, List.length_append]
      exact Nat.le_add_left _ _
  · intro hrun x hx
    exact key_of_mem_lastRun (hrun.subset hx)

end Runs

/-! ## The ends of a growing list -/

theorem rtake_suffix : list.rtake n <:+ list := List.drop_suffix _ _

theorem rtake_map {f : α → β} : (list.map f).rtake n = (list.rtake n).map f := by
  rw [List.rtake, List.rtake, List.map_drop, List.length_map]

/-- The last elements that a new one leaves room for. -/
theorem rtake_concat : (list ++ [x]).rtake (n + 1) =
    (if n + 1 ≤ (list.rtake (n + 1)).length then (list.rtake (n + 1)).drop 1
      else list.rtake (n + 1)) ++ [x] := by
  have hlen : (list.rtake (n + 1)).length = list.length - (list.length - (n + 1)) :=
    List.length_drop
  rw [hlen, List.rtake_concat_succ, List.rtake, List.rtake]
  split
  · next hfull =>
    rw [List.drop_drop, show list.length - (n + 1) + 1 = list.length - n by omega]
  · next hroom =>
    rw [show list.length - (n + 1) = list.length - n by omega]

variable [DecidableEq α]

/-- The elements of a list in the order of their first occurrences. -/
def firsts (list : List α) : List α := list.reverse.dedup.reverse

theorem mem_firsts : x ∈ firsts list ↔ x ∈ list := by
  rw [firsts, List.mem_reverse, List.mem_dedup, List.mem_reverse]

theorem length_firsts : (firsts list).length = list.dedup.length := by
  rw [firsts, List.length_reverse]
  exact (list.reverse_perm.dedup).length_eq

theorem firsts_concat : firsts (list ++ [x]) = if x ∈ list then firsts list else firsts list ++ [x] := by
  rw [firsts, List.reverse_append, List.reverse_singleton, List.singleton_append]
  split
  · next h => rw [List.dedup_cons_of_mem (List.mem_reverse.mpr h), firsts]
  · next h =>
    rw [List.dedup_cons_of_notMem (fun hmem => h (List.mem_reverse.mp hmem)), List.reverse_cons, firsts]

/-- The first elements only need the first elements of the rest. -/
theorem take_firsts_concat : (firsts (list ++ [x])).take n =
    if x ∈ (firsts list).take n then (firsts list).take n
    else ((firsts list).take n ++ [x]).take n := by
  rw [firsts_concat]
  split
  · next hmem =>
    split
    · rfl
    · next hout =>
      -- the element is one of the others, so there is no room
      have hfull : ((firsts list).take n).length = n := by
        rw [List.length_take, Nat.min_eq_left]
        by_contra hshort
        rw [List.take_of_length_le (by omega)] at hout
        exact hout (mem_firsts.mpr hmem)
      rw [List.take_append_of_le_length hfull.ge, List.take_of_length_le hfull.le]
  · next hnew =>
    rw [if_neg fun hmem => hnew (mem_firsts.mp (List.mem_of_mem_take hmem))]
    rw [List.take_append, List.take_append, List.take_take, Nat.min_self, List.length_take]
    congr 2
    omega

end ServerRS.Lib

import Mathlib.Data.List.Basic
import Mathlib.Data.Set.Finite.List
import Mathlib.Logic.Relation
import Mathlib.Order.WellFounded

/-!
# Taking elements out in turn

`drain pick` empties a list by taking out the element at the position that `pick` gives for what is
left. What comes out is the list, in another order (`drain_perm`). When the first element that waits
for no other one left is picked, an element comes after those it waits for, unless it waits, directly
or not, for one that waits for itself (`mem_before_of_waits`).
-/

namespace ServerRS.Lib

variable {α : Type} {pick : List α → ℕ} {fuel : ℕ} {rest before after : List α} {x y : α}

/-- Takes out the element at `pick rest` for as long as there is one, at most `fuel` times. -/
def drain (pick : List α → ℕ) : ℕ → List α → List α
  | 0, _ => []
  | fuel + 1, rest =>
    match rest[pick rest]? with
    | none => []
    | some x => x :: drain pick fuel (rest.eraseIdx (pick rest))

theorem perm_eraseIdx {i : ℕ} (h : rest[i]? = some x) : (x :: rest.eraseIdx i).Perm rest := by
  obtain ⟨hlt, rfl⟩ := List.getElem?_eq_some_iff.mp h
  exact List.getElem_cons_eraseIdx_perm hlt

/-- With a step for each element, every element comes out once. -/
theorem drain_perm (hpick : ∀ rest : List α, rest ≠ [] → pick rest < rest.length)
    (hfuel : rest.length ≤ fuel) : (drain pick fuel rest).Perm rest := by
  induction fuel generalizing rest with
  | zero =>
    rw [List.eq_nil_of_length_eq_zero (Nat.le_zero.mp hfuel)]
    exact .nil
  | succ fuel ih =>
    cases hx : rest[pick rest]? with
    | none =>
      have hnil : rest = [] := by
        by_contra hne
        exact absurd (List.getElem?_eq_none_iff.mp hx) (Nat.not_le.mpr (hpick rest hne))
      rw [hnil] at hx ⊢
      rw [drain, hx]
    | some x =>
      have hperm := perm_eraseIdx hx
      have hlen : (rest.eraseIdx (pick rest)).length ≤ fuel := by
        have := hperm.length_eq
        rw [List.length_cons] at this
        omega
      rw [drain, hx]
      exact ((ih hlen).cons x).trans hperm

/-- An element is picked from what its predecessors left. -/
theorem exists_left (h : drain pick fuel rest = before ++ x :: after) :
    ∃ left, (before ++ left).Perm rest ∧ left[pick left]? = some x := by
  induction fuel generalizing rest before with
  | zero =>
    rw [drain] at h
    exact absurd h.symm (List.append_ne_nil_of_right_ne_nil _ (List.cons_ne_nil _ _))
  | succ fuel ih =>
    rw [drain] at h
    cases hfst : rest[pick rest]? with
    | none =>
      rw [hfst] at h
      exact absurd h.symm (List.append_ne_nil_of_right_ne_nil _ (List.cons_ne_nil _ _))
    | some first =>
      rw [hfst] at h
      cases before with
      | nil =>
        cases h
        exact ⟨rest, .refl _, hfst⟩
      | cons other before =>
        obtain ⟨rfl, hrest⟩ := List.cons.inj h
        obtain ⟨left, hperm, hpic⟩ := ih hrest
        exact ⟨left, (hperm.cons _).trans (perm_eraseIdx hfst), hpic⟩

/-! ## Elements that wait for others -/

section Waits

variable (waits : α → α → Bool)

/-- The first element that waits for none that is left, or else the first one. -/
def firstReady (rest : List α) : ℕ := (rest.findIdx? fun x => !rest.any (waits x)).getD 0

/-- `x` waits for `y`, one of `rest`. -/
def WaitsIn (rest : List α) (x y : α) : Prop := y ∈ rest ∧ waits x y = true

/-- Nothing that `x` waits for, directly or not, waits for itself. -/
def Acyclic (rest : List α) (x : α) : Prop :=
  ∀ y, Relation.ReflTransGen (WaitsIn waits rest) x y →
    ¬ Relation.TransGen (WaitsIn waits rest) y y

variable {waits}

theorem firstReady_lt (hne : rest ≠ []) : firstReady waits rest < rest.length := by
  rw [firstReady]
  cases hindex : rest.findIdx? fun x => !rest.any (waits x) with
  | none => exact List.length_pos_iff.mpr hne
  | some i =>
    obtain ⟨hlt, -⟩ := List.findIdx?_eq_some_iff_getElem.mp hindex
    exact hlt

theorem drain_firstReady_perm (rest : List α) :
    (drain (firstReady waits) rest.length rest).Perm rest :=
  drain_perm (fun _ hne => firstReady_lt hne) (le_refl _)

/-- An element that is picked while it waits is picked because all that are left wait. -/
theorem all_wait (hx : rest[firstReady waits rest]? = some x) (hy : WaitsIn waits rest x y) :
    ∀ z ∈ rest, ∃ other, WaitsIn waits rest z other := by
  rw [firstReady] at hx
  cases hindex : rest.findIdx? fun x => !rest.any (waits x) with
  | none =>
    intro z hz
    have hall := List.findIdx?_eq_none_iff.mp hindex z hz
    rw [Bool.not_eq_false'] at hall
    obtain ⟨other, hoth, hwaits⟩ := List.any_eq_true.mp hall
    exact ⟨other, hoth, hwaits⟩
  | some i =>
    rw [hindex] at hx
    obtain ⟨hlt, hrdy, -⟩ := List.findIdx?_eq_some_iff_getElem.mp hindex
    have hsame : rest[i] = x := by
      obtain ⟨_, h⟩ := List.getElem?_eq_some_iff.mp hx
      exact h
    rw [hsame] at hrdy
    have hwaits : rest.any (waits x) = true := List.any_eq_true.mpr ⟨y, hy⟩
    rw [hwaits] at hrdy
    cases hrdy

/-- In a finite list, elements that all wait for one another make a cycle. -/
theorem Acyclic.exists_ready {left : List α} (h : Acyclic waits rest x) (hsubs : left ⊆ rest)
    (hx : x ∈ left) : ∃ z ∈ left, ∀ other, ¬ WaitsIn waits left z other := by
  let below (a b : {z // z ∈ left}) : Prop := Relation.TransGen (WaitsIn waits rest) b.1 a.1 ∧
    Relation.ReflTransGen (WaitsIn waits rest) x b.1
  have : Finite {z // z ∈ left} := left.finite_toSet.to_subtype
  have : IsTrans {z // z ∈ left} below :=
    ⟨fun a b c hab hbc => ⟨hbc.1.trans hab.1, hbc.2⟩⟩
  have : Std.Irrefl below := ⟨fun a haa => h a.1 haa.2 haa.1⟩
  have hwf : WellFounded below := Finite.wellFounded_of_trans_of_irrefl below
  obtain ⟨z, hrch, hmin⟩ := hwf.has_min
    {z | Relation.ReflTransGen (WaitsIn waits rest) x z.1} ⟨⟨x, hx⟩, .refl⟩
  refine ⟨z.1, z.2, fun other hoth => ?_⟩
  have hstep : WaitsIn waits rest z.1 other := ⟨hsubs hoth.1, hoth.2⟩
  exact hmin ⟨other, hoth.1⟩ (hrch.tail hstep) ⟨.single hstep, hrch⟩

theorem mem_before_of_waits (h : drain (firstReady waits) fuel rest = before ++ x :: after)
    (hacyclic : Acyclic waits rest x) (hy : WaitsIn waits rest x y) : y ∈ before := by
  obtain ⟨left, hperm, hpic⟩ := exists_left h
  by_contra hnot
  have hleft : y ∈ left := (List.mem_append.mp (hperm.mem_iff.mpr hy.1)).resolve_left hnot
  have hx : x ∈ left := List.mem_of_getElem? hpic
  have hsubs : left ⊆ rest := fun z hz => hperm.subset (List.mem_append_right _ hz)
  obtain ⟨z, hz, hrdy⟩ := hacyclic.exists_ready hsubs hx
  obtain ⟨other, hoth⟩ := all_wait hpic ⟨hleft, hy.2⟩ z hz
  exact hrdy other hoth

end Waits

end ServerRS.Lib

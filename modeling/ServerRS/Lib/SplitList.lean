import Mathlib.Data.List.Induction
import Mathlib.Data.List.Nodup

/-!
# Positions in a list without repetitions

In a list whose keys are distinct, a place is determined by the key that stands there. `AllSplits P`
says of each place of a list that its element satisfies `P` after what stands before it.
-/

namespace ServerRS.Lib

variable {α κ : Type} {key : α → κ} {list first second before after : List α} {x y : α}

/-- Two ways to split a list at one key are the same. -/
theorem split_unique (hnd : (list.map key).Nodup) (h : list = before ++ x :: after)
    (h' : list = first ++ y :: second) (hkey : key x = key y) :
    before = first ∧ x = y ∧ after = second := by
  subst h
  induction before generalizing first with
  | nil =>
    cases first with
    | nil =>
      obtain ⟨rfl, rfl⟩ := List.cons.inj h'
      exact ⟨rfl, rfl, rfl⟩
    | cons z first =>
      obtain ⟨rfl, rfl⟩ := List.cons.inj h'
      rw [List.nil_append, List.map_cons, List.nodup_cons] at hnd
      exact absurd (List.mem_map.mpr ⟨y, by simp, hkey.symm⟩) hnd.1
  | cons z before ih =>
    rw [List.cons_append, List.map_cons, List.nodup_cons] at hnd
    cases first with
    | nil =>
      obtain ⟨rfl, rfl⟩ := List.cons.inj h'
      exact absurd (List.mem_map.mpr ⟨x, by simp, hkey⟩) hnd.1
    | cons w first =>
      obtain ⟨rfl, htail⟩ := List.cons.inj h'
      obtain ⟨rfl, hxy, haft⟩ := ih hnd.2 htail
      exact ⟨rfl, hxy, haft⟩

/-- What comes before the first mark, and what comes behind it. -/
theorem append_mark_inj {mark : α} (hbef : mark ∉ before) (hfst : mark ∉ first)
    (h : before ++ mark :: after = first ++ mark :: second) : before = first ∧ after = second := by
  rcases List.append_eq_append_iff.mp h with ⟨rest, rfl, hrest⟩ | ⟨rest, rfl, hrest⟩
  · cases rest with
    | nil => exact ⟨by simp, (List.cons.inj hrest).2⟩
    | cons x rest =>
      obtain ⟨rfl, -⟩ := List.cons.inj hrest
      exact absurd (List.mem_append_right _ List.mem_cons_self) hfst
  · cases rest with
    | nil => exact ⟨by simp, (List.cons.inj hrest).2.symm⟩
    | cons x rest =>
      obtain ⟨rfl, -⟩ := List.cons.inj hrest
      exact absurd (List.mem_append_right _ List.mem_cons_self) hbef

/-- What stands behind `y` stands at a place with `y` before it. -/
theorem mem_before_of_mem_after (hnd : (list.map key).Nodup) (h : list = before ++ x :: after)
    (h' : list = first ++ y :: second) (hmem : x ∈ second) : y ∈ before := by
  obtain ⟨middle, rest, rfl⟩ := List.append_of_mem hmem
  have hspl : list = (first ++ y :: middle) ++ x :: rest := by rw [h', List.append_assoc]; rfl
  obtain ⟨rfl, -, -⟩ := split_unique hnd h hspl rfl
  exact List.mem_append_right _ List.mem_cons_self

/-- A split of a list with one more element is at that element, or before it. -/
theorem snoc_eq_split : list ++ [y] = before ++ x :: after ↔
    list = before ∧ y = x ∧ after = [] ∨ ∃ rest, after = rest ++ [y] ∧ list = before ++ x :: rest := by
  constructor
  · intro h
    rcases List.eq_nil_or_concat after with rfl | ⟨rest, last, rfl⟩
    · obtain ⟨hlist, hlast⟩ := List.append_inj' h rfl
      exact .inl ⟨hlist, (List.cons.inj hlast).1, rfl⟩
    · rw [List.concat_eq_append, ← List.cons_append, ← List.append_assoc] at h
      obtain ⟨hlist, hlast⟩ := List.append_inj' h rfl
      rw [List.concat_eq_append, (List.cons.inj hlast).1]
      exact .inr ⟨rest, rfl, hlist⟩
  · rintro (⟨rfl, rfl, rfl⟩ | ⟨rest, rfl, rfl⟩)
    · rfl
    · rw [List.append_assoc]
      rfl

/-- An element that is not in the first part of a list stands in the second one. -/
theorem split_of_not_mem (h : first ++ second = before ++ x :: after) (hnot : x ∉ first) :
    ∃ between, before = first ++ between ∧ second = between ++ x :: after := by
  rcases List.append_eq_append_iff.mp h with ⟨between, hbef, hsec⟩ | ⟨between, hfst, hsec⟩
  · exact ⟨between, hbef, hsec⟩
  · cases between with
    | nil => exact ⟨[], by rw [List.append_nil] at hfst ⊢; exact hfst.symm, hsec.symm⟩
    | cons y between =>
      obtain ⟨rfl, -⟩ := List.cons.inj hsec
      exact absurd (hfst ▸ List.mem_append_right _ List.mem_cons_self) hnot

/-! ## Every place of a list -/

def AllSplits (P : List α → α → Prop) (list : List α) : Prop :=
  ∀ before x after, list = before ++ x :: after → P before x

section AllSplits

variable {P Q : List α → α → Prop}

theorem allSplits_nil : AllSplits P [] :=
  fun _ _ _ h => absurd h.symm (List.append_ne_nil_of_right_ne_nil _ (List.cons_ne_nil _ _))

theorem allSplits_snoc : AllSplits P (list ++ [x]) ↔ AllSplits P list ∧ P list x := by
  constructor
  · intro h
    refine ⟨fun before y after hspl => ?_, h list x [] rfl⟩
    exact h before y (after ++ [x]) (snoc_eq_split.mpr (.inr ⟨after, rfl, hspl⟩))
  · rintro ⟨hall, hlast⟩ before y after hspl
    rcases snoc_eq_split.mp hspl with ⟨rfl, rfl, rfl⟩ | ⟨rest, rfl, hrest⟩
    · exact hlast
    · exact hall before y rest hrest

theorem allSplits_pair : AllSplits P [x, y] ↔ P [] x ∧ P [x] y := by
  show AllSplits P (([] ++ [x]) ++ [y]) ↔ _
  rw [allSplits_snoc, allSplits_snoc, and_iff_right allSplits_nil]
  rfl

/-- Two properties agree at every place when they do where the first one holds before. -/
theorem allSplits_congr (h : ∀ before x after, list = before ++ x :: after → AllSplits P before →
    (P before x ↔ Q before x)) : AllSplits P list ↔ AllSplits Q list := by
  induction list using List.reverseRecOn with
  | nil => exact iff_of_true allSplits_nil allSplits_nil
  | append_singleton list x ih =>
    have hlist : AllSplits P list ↔ AllSplits Q list := ih fun before y after hspl =>
      h before y (after ++ [x]) (snoc_eq_split.mpr (.inr ⟨after, rfl, hspl⟩))
    rw [allSplits_snoc, allSplits_snoc, ← hlist]
    exact and_congr_right fun hall => h list x [] rfl hall

theorem allSplits_pairwise {R : α → α → Prop} :
    AllSplits (fun before x => ∀ y ∈ before, R y x) list ↔ list.Pairwise R := by
  induction list using List.reverseRecOn with
  | nil => exact iff_of_true allSplits_nil .nil
  | append_singleton list x ih =>
    rw [allSplits_snoc, ih, List.pairwise_append]
    simp

end AllSplits

end ServerRS.Lib

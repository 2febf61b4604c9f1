import Mathlib.Data.List.Basic

/-!
# What held of the past

`Throughout Q history` says that whenever an entry was added to a history, `Q` held of the
entries before it and of the entry. It is kept by looking at what is added
(`throughout_append`), and read off at any place (`Throughout.split`).

`Throughout.countP_le` is the rule for promises that are used up: if every use comes after a
promise with no other use in between, there are no more uses than promises.
-/

namespace ServerRS.Lib

variable {α : Type} {Q R : List α → α → Prop} {past xs ys : List α} {x : α}

/-- `Q` holds of every entry of a list and of what was before it, where `past` was before all. -/
def Added (Q : List α → α → Prop) : List α → List α → Prop
  | _, [] => True
  | past, x :: xs => Q past x ∧ Added Q (past ++ [x]) xs

/-- `Q` holds of every entry of the history and of what was before it. -/
abbrev Throughout (Q : List α → α → Prop) (history : List α) : Prop := Added Q [] history

@[simp] theorem added_nil : Added Q past [] := trivial

@[simp] theorem added_cons : Added Q past (x :: xs) ↔ Q past x ∧ Added Q (past ++ [x]) xs := Iff.rfl

theorem added_append : Added Q past (xs ++ ys) ↔ Added Q past xs ∧ Added Q (past ++ xs) ys := by
  induction xs generalizing past with
  | nil => simp
  | cons x xs ih =>
    rw [List.cons_append, added_cons, added_cons, ih, and_assoc, List.append_assoc,
      List.singleton_append]

theorem throughout_append : Throughout Q (xs ++ ys) ↔ Throughout Q xs ∧ Added Q xs ys :=
  added_append

theorem Added.imp (himp : ∀ past x, Q past x → R past x) (h : Added Q past xs) : Added R past xs := by
  induction xs generalizing past with
  | nil => trivial
  | cons x xs ih => exact ⟨himp past x h.1, ih h.2⟩

/-- Where nothing that is added is spoken of, the property is kept. -/
theorem added_of_forall (h : ∀ past, ∀ x ∈ xs, Q past x) : Added Q past xs := by
  induction xs generalizing past with
  | nil => trivial
  | cons x xs ih =>
    exact ⟨h past x List.mem_cons_self, ih fun past y hy => h past y (List.mem_cons_of_mem x hy)⟩

/-- An element of a history that grew was there before, or is among what was added. -/
theorem split_append {before after : List α} (h : xs ++ ys = before ++ x :: after) :
    (∃ rest, xs = before ++ x :: rest ∧ after = rest ++ ys) ∨
      ∃ middle, before = xs ++ middle ∧ ys = middle ++ x :: after := by
  rcases List.append_eq_append_iff.mp h with ⟨middle, hbef, hys⟩ | ⟨rest, hxs, hrest⟩
  · exact .inr ⟨middle, hbef, hys⟩
  · cases rest with
    | nil =>
      rw [List.append_nil] at hxs
      exact .inr ⟨[], by rw [hxs, List.append_nil], hrest.symm⟩
    | cons y rest =>
      obtain ⟨rfl, haft⟩ := List.cons.inj hrest
      exact .inl ⟨rest, hxs, haft⟩

/-- A list, taken apart at its `n`-th element. -/
theorem eq_split_of_getElem? {n : ℕ} (h : xs[n]? = some x) :
    xs = xs.take n ++ x :: xs.drop (n + 1) := by
  obtain ⟨hlt, hget⟩ := List.getElem?_eq_some_iff.mp h
  rw [← hget, ← List.drop_eq_getElem_cons hlt, List.take_append_drop]

/-- In a list that is split at `x` and at `a`, with no `x` from `a` on, `a` comes after `x`. -/
theorem split_of_split {before between : List α} {a : α}
    (h : xs ++ x :: ys = before ++ a :: between) (hne : x ≠ a) (hbetw : x ∉ between) :
    ∃ middle, ys = middle ++ a :: between := by
  rcases split_append h with ⟨rest, -, rfl⟩ | ⟨middle, -, hys⟩
  · exact absurd (List.mem_append_right rest List.mem_cons_self) hbetw
  · cases middle with
    | nil =>
      obtain ⟨rfl, -⟩ := List.cons.inj hys
      exact absurd rfl hne
    | cons y middle => exact ⟨middle, (List.cons.inj hys).2⟩

namespace Throughout

/-- At any place of the history the property held of what was before. -/
theorem split {before after : List α} (h : Throughout Q (before ++ x :: after)) : Q before x :=
  (throughout_append.mp h).2.1

theorem of_append (h : Throughout Q (xs ++ ys)) : Throughout Q xs := (throughout_append.mp h).1

/-- If every use comes after a promise with no other use in between, there are no more uses than
promises. -/
theorem countP_le {use promise : α → Bool} {history : List α}
    (h : Throughout (fun past x => use x = true → ∃ before a between, past = before ++ a :: between ∧
      promise a = true ∧ use a = false ∧ ∀ y ∈ between, use y = false) history) :
    history.countP use ≤ history.countP promise := by
  -- the history up to the promise is shorter
  induction hlen : history.length using Nat.strongRecOn generalizing history with
  | ind length ih =>
    rcases List.eq_nil_or_concat' history with rfl | ⟨past, x, rfl⟩
    · exact Nat.le_refl _
    · have hpast := h.of_append
      have hshor : past.length < length := by
        rw [← hlen, List.length_append, List.length_singleton]
        exact Nat.lt_succ_self _
      rw [List.countP_append, List.countP_append]
      by_cases hx : use x = true
      · obtain ⟨before, a, between, rfl, hpromise, ha, hbetw⟩ := h.split hx
        have hbef : before.countP use ≤ before.countP promise := by
          refine ih before.length ?_ hpast.of_append rfl
          rw [List.length_append] at hshor
          exact Nat.lt_of_le_of_lt (Nat.le_add_right _ _) hshor
        have hnone : between.countP use = 0 :=
          List.countP_eq_zero.mpr fun y hy => by rw [hbetw y hy]; exact Bool.false_ne_true
        have huses : (before ++ a :: between).countP use = before.countP use := by
          rw [List.countP_append, List.countP_cons_of_neg (by rw [ha]; exact Bool.false_ne_true),
            hnone, Nat.add_zero]
        have hpromises : before.countP promise + 1 ≤ (before ++ a :: between).countP promise := by
          rw [List.countP_append, List.countP_cons_of_pos hpromise]
          omega
        rw [huses, List.countP_singleton, if_pos hx]
        omega
      · have hle := ih past.length hshor hpast rfl
        rw [List.countP_singleton, if_neg hx]
        omega

end Throughout

end ServerRS.Lib

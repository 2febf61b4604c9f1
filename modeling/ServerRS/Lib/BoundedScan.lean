import ServerRS.Lib.Window

/-!
# Repeated scans over bounded windows

A scan materialises the items of its first `n` eligible sources and then serves its first `n`
due items. Nothing that is handled leaves the two windows: an eligible source stays eligible
and a served item stays due. Items may become `stale` and are then removed by somebody.

`progress_of_roomy`: when every source without an item and every item without service has room
in its window at the start, all of them are reached, whatever is withdrawn on the way.
`roomy_of_progress`: when nothing is withdrawn but stale items, that is also necessary, since a
row outside its window stays outside.
-/

namespace ServerRS.Lib.BoundedScan

variable {σ ι κ κ' : Type} [LinearOrder κ] [LinearOrder κ'] {n : Nat} {key : σ → κ} {order : ι → κ'}
  {item : σ → ι} {isDue stale : ι → Bool}

/-- What a scan sees: the sources it may materialise, which of them have an item, the due items
and which of them are served. -/
structure Desk (σ ι : Type) where
  eligible : List σ
  made : σ → Bool
  due : List ι
  served : ι → Bool

/-- Sources and due items are withdrawn. -/
structure Withdraws (q r : Desk σ ι) : Prop where
  eligible : r.eligible.Sublist q.eligible
  made : r.made = q.made
  due : r.due.Sublist q.due
  served : ∀ i, q.served i = true → r.served i = true

/-- Only stale items are withdrawn. -/
structure Settles (stale : ι → Bool) (q r : Desk σ ι) : Prop extends Withdraws q r where
  eligible_eq : r.eligible = q.eligible
  due_eq : (r.due.filter fun i => !stale i) = q.due.filter fun i => !stale i

/-- The eligible sources without an item. -/
def Desk.unmade (q : Desk σ ι) : List σ := q.eligible.filter fun f => !q.made f

/-- The first `n` eligible sources have an item from now on. -/
structure Materialises (n : Nat) (key : σ → κ) (item : σ → ι) (isDue : ι → Bool) (q r : Desk σ ι) :
    Prop where
  eligible : r.eligible = q.eligible
  made : ∀ f ∈ q.eligible, r.made f = true ↔ q.made f = true ∨ rank key q.eligible f < n
  due : r.due.Perm
    (q.due ++ ((q.unmade.filter fun f => decide (rank key q.eligible f < n)).map item).filter isDue)
  served : ∀ i, q.served i = true → r.served i = true

/-- The first `n` due items are served. -/
structure Serves (n : Nat) (order : ι → κ') (q r : Desk σ ι) : Prop where
  eligible : r.eligible = q.eligible
  made : r.made = q.made
  due : r.due = q.due
  served : ∀ i, q.served i = true ∨ i ∈ q.due ∧ rank order q.due i < n → r.served i = true

/-- The due items, and those that the sources without one would get. -/
def Desk.entries (item : σ → ι) (isDue : ι → Bool) (q : Desk σ ι) : List ι :=
  q.due ++ (q.unmade.map item).filter isDue

/-- Each source without an item, and each item that waits to be served, has fewer than `n` rows
before it. -/
structure Roomy (n : Nat) (key : σ → κ) (order : ι → κ') (item : σ → ι) (isDue stale : ι → Bool)
    (q : Desk σ ι) : Prop where
  sources : ∀ f ∈ q.eligible, q.made f = false → rank key q.eligible f < n
  items : ∀ i ∈ q.entries item isDue, stale i = false → q.served i = false →
    rank order ((q.entries item isDue).filter fun i => !stale i) i < n

/-- Scan after scan: the desk before each of them, and the desk it serves. -/
structure Run (n : Nat) (key : σ → κ) (order : ι → κ') (item : Nat → σ → ι) (isDue : ι → Bool)
    (start read : Nat → Desk σ ι) : Prop where
  prepares : ∀ k, ∃ q, Withdraws (start k) q ∧ Materialises n key (item k) isDue q (read k)
  serves : ∀ k, ∃ q, Serves n order (read k) q ∧ Withdraws q (start (k + 1))

/-- A run in which only stale items are withdrawn, and only the window is served. -/
structure IdleRun (n : Nat) (key : σ → κ) (order : ι → κ') (item : Nat → σ → ι)
    (isDue stale : ι → Bool) (start read : Nat → Desk σ ι) : Prop where
  prepares : ∀ k, ∃ q, Settles stale (start k) q ∧ Materialises n key (item k) isDue q (read k)
  serves : ∀ k, ∃ q, Serves n order (read k) q ∧ Settles stale q (start (k + 1))
  unserved : ∀ k, ∀ i ∈ (read k).due, (read k).served i = true → (start k).served i = true
  window : ∀ k, ∀ i ∈ (start (k + 1)).due, (start (k + 1)).served i = true →
    (read k).served i = true ∨ rank order (read k).due i < n

/-- Whatever is eligible gets its item, and whatever is due is served, unless it is withdrawn. -/
structure Progress (start : Nat → Desk σ ι) : Prop where
  sources : ∀ m, ∀ f ∈ (start m).eligible, ∃ k ≥ m,
    (start k).made f = true ∨ f ∉ (start k).eligible
  items : ∀ m, ∀ i ∈ (start m).due, ∃ k ≥ m, (start k).served i = true ∨ i ∉ (start k).due

section OneScan

variable {q r : Desk σ ι}

theorem Withdraws.refl : Withdraws q q := ⟨.refl _, rfl, .refl _, fun _ h => h⟩

theorem Withdraws.trans {p : Desk σ ι} (h : Withdraws p q) (h' : Withdraws q r) : Withdraws p r where
  eligible := h'.eligible.trans h.eligible
  made := h'.made.trans h.made
  due := h'.due.trans h.due
  served i hi := h'.served i (h.served i hi)

theorem Settles.refl : Settles stale q q := ⟨.refl, rfl, rfl⟩

theorem mem_unmade {f : σ} : f ∈ q.unmade ↔ f ∈ q.eligible ∧ q.made f = false := by
  simp [Desk.unmade]

theorem Withdraws.unmade (h : Withdraws q r) : r.unmade.Sublist q.unmade := by
  rw [Desk.unmade, Desk.unmade, h.made]
  exact h.eligible.filter _

theorem Withdraws.entries (h : Withdraws q r) :
    (r.entries item isDue).Sublist (q.entries item isDue) :=
  h.due.append ((h.unmade.map item).filter isDue)

theorem Settles.unmade (h : Settles stale q r) : r.unmade = q.unmade := by
  rw [Desk.unmade, Desk.unmade, h.made, h.eligible_eq]

theorem Settles.entries (h : Settles stale q r) :
    ((r.entries item isDue).filter fun i => !stale i) =
      (q.entries item isDue).filter fun i => !stale i := by
  rw [Desk.entries, Desk.entries, List.filter_append, List.filter_append, h.due_eq, h.unmade]

/-- When every source has room, the scan reads all entries. -/
theorem Materialises.due_of_room (h : Materialises n key item isDue q r)
    (hroom : ∀ f ∈ q.unmade, rank key q.eligible f < n) : r.due.Perm (q.entries item isDue) := by
  have hall : (q.unmade.filter fun f => decide (rank key q.eligible f < n)) = q.unmade :=
    List.filter_eq_self.mpr fun f hf => decide_eq_true (hroom f hf)
  have hdue := h.due
  rw [hall] at hdue
  exact hdue

theorem Materialises.made_of_room (h : Materialises n key item isDue q r)
    (hroom : ∀ f ∈ q.unmade, rank key q.eligible f < n) {f : σ} (hf : f ∈ r.eligible) :
    r.made f = true := by
  rw [h.eligible] at hf
  rw [h.made f hf]
  cases hmade : q.made f with
  | true => exact .inl rfl
  | false => exact .inr (hroom f (mem_unmade.mpr ⟨hf, hmade⟩))

end OneScan

variable {items : Nat → σ → ι} {start read : Nat → Desk σ ι}

theorem IdleRun.run (h : IdleRun n key order items isDue stale start read) :
    Run n key order items isDue start read where
  prepares k := by
    obtain ⟨q, hq, hread⟩ := h.prepares k
    exact ⟨q, hq.toWithdraws, hread⟩
  serves k := by
    obtain ⟨q, hq, hsta⟩ := h.serves k
    exact ⟨q, hq, hsta.toWithdraws⟩

namespace Run

theorem served_mono (h : Run n key order items isDue start read) {m k : Nat} (hmk : m ≤ k) {i : ι}
    (hi : (start m).served i = true) : (start k).served i = true := by
  induction hmk with
  | refl => exact hi
  | @step k _ ih =>
    obtain ⟨q, hq, hread⟩ := h.prepares k
    obtain ⟨r, hr, hsta⟩ := h.serves k
    exact hsta.served i (hr.served i (.inl (hread.served i (hq.served i ih))))

/-- After the first scan every eligible source has its item, and what a scan reads are entries
of the start. -/
theorem reads_entries (h : Run n key order items isDue start read)
    (hroom : ∀ f ∈ (start 0).eligible, (start 0).made f = false →
      rank key (start 0).eligible f < n) (k : Nat) :
    (read k).due.Subperm ((start 0).entries (items 0) isDue) ∧
      ∀ f ∈ (start (k + 1)).eligible, (start (k + 1)).made f = true := by
  have hsrv (k : Nat) : (start (k + 1)).due.Sublist (read k).due ∧
      (start (k + 1)).made = (read k).made ∧ (start (k + 1)).eligible.Sublist (read k).eligible := by
    obtain ⟨r, hr, hsta⟩ := h.serves k
    exact ⟨hr.due ▸ hsta.due, hsta.made.trans hr.made, hr.eligible ▸ hsta.eligible⟩
  have hmade {q : Desk σ ι} (hread : Materialises n key (items k) isDue q (read k))
      (hq : ∀ f ∈ q.unmade, rank key q.eligible f < n) :
      ∀ f ∈ (start (k + 1)).eligible, (start (k + 1)).made f = true := by
    intro f hf
    obtain ⟨-, hmade, helig⟩ := hsrv k
    rw [hmade]
    exact hread.made_of_room hq (helig.subset hf)
  obtain ⟨q, hq, hread⟩ := h.prepares k
  cases k with
  | zero =>
    have hrank : ∀ f ∈ q.unmade, rank key q.eligible f < n := by
      intro f hf
      obtain ⟨hfe, hfm⟩ := mem_unmade.mp hf
      rw [hq.made] at hfm
      exact (rank_le_of_sublist hq.eligible).trans_lt (hroom f (hq.eligible.subset hfe) hfm)
    exact ⟨(hread.due_of_room hrank).subperm.trans hq.entries.subperm, hmade hread hrank⟩
  | succ k =>
    obtain ⟨ihdue, ihmade⟩ := reads_entries h hroom k
    have hunm : q.unmade = [] := by
      rw [Desk.unmade, List.filter_eq_nil_iff]
      intro f hf
      rw [hq.made, ihmade f (hq.eligible.subset hf)]
      exact Bool.false_ne_true
    have hrank : ∀ f ∈ q.unmade, rank key q.eligible f < n := by simp [hunm]
    refine ⟨?_, hmade hread hrank⟩
    have hdue := hread.due_of_room hrank
    rw [Desk.entries, hunm, List.map_nil, List.filter_nil, List.append_nil] at hdue
    exact hdue.subperm.trans ((hq.due.trans (hsrv k).1).subperm.trans ihdue)

/-- With room for everything, everything is reached. -/
theorem progress_of_roomy (h : Run n key order items isDue start read)
    (hroomy : Roomy n key order (items 0) isDue stale (start 0))
    (hset : ∃ N, ∀ k ≥ N, ∀ i ∈ (read k).due, stale i = false) : Progress start where
  sources m f _ := by
    by_cases hf : f ∈ (start (m + 1)).eligible
    · exact ⟨m + 1, Nat.le_succ m, .inl ((h.reads_entries hroomy.sources m).2 f hf)⟩
    · exact ⟨m + 1, Nat.le_succ m, .inr hf⟩
  items m i _ := by
    obtain ⟨N, hN⟩ := hset
    -- A scan late enough to read no stale item reads few enough rows before `i`.
    have hlate : max m N ≥ N := le_max_right m N
    refine ⟨max m N + 1, (le_max_left m N).trans (Nat.le_succ _), ?_⟩
    generalize max m N = k at hlate
    by_cases hi : i ∈ (read k).due
    · left
      by_cases hsrv : (start 0).served i = true
      · exact h.served_mono (Nat.zero_le _) hsrv
      · obtain ⟨r, hr, hsta⟩ := h.serves k
        have hentr := (h.reads_entries hroomy.sources k).1
        have hfr : ((read k).due.filter fun i => !stale i) = (read k).due :=
          List.filter_eq_self.mpr fun j hj => by rw [hN k hlate j hj]; rfl
        have hrank : rank order (read k).due i < n := by
          refine lt_of_le_of_lt ?_ (hroomy.items i (hentr.subset hi) (hN k hlate i hi)
            (Bool.eq_false_iff.mpr hsrv))
          rw [← hfr]
          exact rank_le_of_subperm (hentr.filter _)
        exact hsta.served i (hr.served i (.inr ⟨hi, hrank⟩))
    · right
      obtain ⟨r, hr, hsta⟩ := h.serves k
      exact fun hmem => hi (hr.due ▸ hsta.due.subset hmem)

end Run

namespace IdleRun

theorem start_eligible (h : IdleRun n key order items isDue stale start read) (k : Nat) :
    (start k).eligible = (start 0).eligible := by
  induction k with
  | zero => rfl
  | succ k ih =>
    obtain ⟨q, hq, hread⟩ := h.prepares k
    obtain ⟨r, hr, hsta⟩ := h.serves k
    rw [hsta.eligible_eq, hr.eligible, hread.eligible, hq.eligible_eq, ih]

/-- A source outside the window stays without an item. -/
theorem unmade_forever (h : IdleRun n key order items isDue stale start read) {f : σ}
    (hf : f ∈ (start 0).eligible) (hmade : (start 0).made f = false)
    (hrank : ¬ rank key (start 0).eligible f < n) (k : Nat) :
    (start k).made f = false := by
  induction k with
  | zero => exact hmade
  | succ k ih =>
    obtain ⟨q, hq, hread⟩ := h.prepares k
    obtain ⟨r, hr, hsta⟩ := h.serves k
    have hfq : f ∈ q.eligible := by rwa [hq.eligible_eq, h.start_eligible k]
    rw [hsta.made, hr.made, Bool.eq_false_iff, ne_eq, hread.made f hfq, hq.made, hq.eligible_eq,
      h.start_eligible k]
    rintro (hk | hlt)
    · rw [ih] at hk
      exact Bool.false_ne_true hk
    · exact hrank hlt

/-- What the scans read, stale items aside, is always the same. -/
theorem reads_fresh_entries (h : IdleRun n key order items isDue stale start read)
    (hroom : ∀ f ∈ (start 0).eligible, (start 0).made f = false →
      rank key (start 0).eligible f < n) (k : Nat) :
    ((read k).due.filter fun i => !stale i).Perm
      (((start 0).entries (items 0) isDue).filter fun i => !stale i) := by
  obtain ⟨q, hq, hread⟩ := h.prepares k
  cases k with
  | zero =>
    have hrank : ∀ f ∈ q.unmade, rank key q.eligible f < n := by
      intro f hf
      obtain ⟨hfe, hfm⟩ := mem_unmade.mp hf
      rw [hq.eligible_eq] at hfe ⊢
      exact hroom f hfe (hq.made ▸ hfm)
    exact ((hread.due_of_room hrank).filter _).trans (hq.entries ▸ .refl _)
  | succ k =>
    have ih := reads_fresh_entries h hroom k
    obtain ⟨r, hr, hsta⟩ := h.serves k
    have hunm : q.unmade = [] := by
      rw [Desk.unmade, List.filter_eq_nil_iff]
      intro f hf
      rw [hq.made, (h.run.reads_entries hroom k).2 f (hq.eligible_eq ▸ hf)]
      exact Bool.false_ne_true
    have hdue := hread.due_of_room (by simp [hunm])
    rw [Desk.entries, hunm, List.map_nil, List.filter_nil, List.append_nil] at hdue
    refine (hdue.filter _).trans ?_
    rw [hq.due_eq, hsta.due_eq, hr.due]
    exact ih

theorem mem_read (h : IdleRun n key order items isDue stale start read)
    (hroom : ∀ f ∈ (start 0).eligible, (start 0).made f = false →
      rank key (start 0).eligible f < n) {i : ι} (hi : i ∈ (start 0).entries (items 0) isDue)
    (hstale : stale i = false) (k : Nat) : i ∈ (read k).due ∧ i ∈ (start (k + 1)).due := by
  have hread : i ∈ (read k).due.filter fun i => !stale i :=
    (h.reads_fresh_entries hroom k).mem_iff.mpr (List.mem_filter.mpr ⟨hi, by simp [hstale]⟩)
  obtain ⟨r, hr, hsta⟩ := h.serves k
  have hnext : i ∈ (start (k + 1)).due.filter fun i => !stale i := by
    rw [hsta.due_eq, hr.due]
    exact hread
  exact ⟨(List.mem_filter.mp hread).1, (List.mem_filter.mp hnext).1⟩

/-- An item outside the window is never served. -/
theorem unserved_forever (h : IdleRun n key order items isDue stale start read)
    (hroom : ∀ f ∈ (start 0).eligible, (start 0).made f = false →
      rank key (start 0).eligible f < n) {i : ι} (hi : i ∈ (start 0).entries (items 0) isDue)
    (hstale : stale i = false) (hsrv : (start 0).served i = false) (hrank : ¬ rank order
      (((start 0).entries (items 0) isDue).filter fun i => !stale i) i < n) (k : Nat) :
    (start k).served i = false := by
  induction k with
  | zero => exact hsrv
  | succ k ih =>
    obtain ⟨hread, hnext⟩ := h.mem_read hroom hi hstale k
    rw [Bool.eq_false_iff]
    intro hk
    rcases h.window k i hnext hk with hk | hlt
    · rw [h.unserved k i hread hk] at ih
      exact Bool.noConfusion ih
    · refine hrank (lt_of_le_of_lt ?_ hlt)
      rw [← rank_perm (h.reads_fresh_entries hroom k)]
      exact rank_le_of_sublist List.filter_sublist

/-- When everything is reached although nobody withdraws anything, there was room for it. -/
theorem roomy_of_progress (h : IdleRun n key order items isDue stale start read)
    (hprog : Progress start) : Roomy n key order (items 0) isDue stale (start 0) := by
  have hsrcs : ∀ f ∈ (start 0).eligible, (start 0).made f = false →
      rank key (start 0).eligible f < n := by
    intro f hf hmade
    by_contra hrank
    obtain ⟨k, -, hk⟩ := hprog.sources 0 f hf
    rw [h.unmade_forever hf hmade hrank k, h.start_eligible k] at hk
    exact hk.elim Bool.false_ne_true fun hnot => hnot hf
  refine ⟨hsrcs, fun i hi hstale hsrv => ?_⟩
  by_contra hrank
  have hmem := h.mem_read hsrcs hi hstale
  obtain ⟨k, hk, hrch⟩ := hprog.items 1 i (hmem 0).2
  obtain ⟨k, rfl⟩ := Nat.exists_eq_add_of_le' hk
  rw [h.unserved_forever hsrcs hi hstale hsrv hrank] at hrch
  exact hrch.elim Bool.false_ne_true fun hnot => hnot (hmem k).2

end IdleRun

end ServerRS.Lib.BoundedScan

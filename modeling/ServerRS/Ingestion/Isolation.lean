import Mathlib.Tactic.SplitIfs
import ServerRS.Ingestion.MicroBatch

/-!
# Invalid messages do no harm

Every batch is processed (`batch_isolated`): all of its valid messages are committed in their order,
however often the store fails in between, and every invalid message is left out after one gap.

What the worker has settled, followed by the indexes of the sub-batches that are left, is the whole
batch at every moment (`Going`). A sub-batch weighs more than its two halves together, so the loop
comes to an end (`weight`).
-/

namespace ServerRS.Ingestion

open Lib

/-! ## Counters -/

theorem toNat_add_ofNat (value : UInt64) (amount : ℕ) :
    (value + UInt64.ofNat amount).toNat = (value.toNat + amount) % 2 ^ 64 := by
  rw [UInt64.toNat_add, UInt64.toNat_ofNat', Nat.add_mod_mod]

theorem saturatingIncrement_toNat (value : UInt64) :
    (saturatingIncrement value).toNat = min (value.toNat + 1) (2 ^ 64 - 1) := by
  have hlt := value.toNat_lt
  rw [saturatingIncrement, saturatingAdd]
  split
  · next hfull =>
    have hone : (1 : UInt64).toNat = 1 := rfl
    rw [hone] at hfull
    show 18446744073709551615 = _
    omega
  · next hroom =>
    have hone : (1 : UInt64).toNat = 1 := rfl
    rw [hone] at hroom
    rw [UInt64.toNat_add, hone, Nat.mod_eq_of_lt (by omega)]
    omega

theorem recordCommitted_toNat {α : Type} (messages : List α) (metrics : IngestionMetrics) :
    (metrics.recordCommitted messages).committed.toNat =
      min (metrics.committed.toNat + messages.length) (2 ^ 64 - 1) := by
  have hlt := metrics.committed.toNat_lt
  induction messages generalizing metrics with
  | nil =>
    show metrics.committed.toNat = _
    rw [List.length_nil]
    omega
  | cons message messages ih =>
    have hone : metrics.recordOne.committed.toNat =
        min (metrics.committed.toNat + 1) (2 ^ 64 - 1) := saturatingIncrement_toNat _
    show (metrics.recordOne.recordCommitted messages).committed.toNat = _
    rw [ih metrics.recordOne metrics.recordOne.committed.toNat_lt, hone, List.length_cons]
    omega

/-- Only the counters of commits change. -/
theorem recordCommitted_eq {α : Type} (messages : List α) (metrics : IngestionMetrics) :
    (metrics.recordCommitted messages).accepted = metrics.accepted ∧
      (metrics.recordCommitted messages).duplicates = metrics.duplicates ∧
      (metrics.recordCommitted messages).invalid = metrics.invalid := by
  induction messages generalizing metrics with
  | nil => exact ⟨rfl, rfl, rfl⟩
  | cons message messages ih => exact ih metrics.recordOne

/-! ## The log -/

section Log

variable {n : ℕ} {log more : List (BatchEvent n)}

@[simp] theorem committed_append : committed (log ++ more) = committed log ++ committed more :=
  List.flatMap_append

@[simp] theorem answered_append : answered (log ++ more) = answered log ++ answered more :=
  List.flatMap_append

@[simp] theorem hooked_append : hooked (log ++ more) = hooked log ++ hooked more :=
  List.filterMap_append

@[simp] theorem skipped_append : skipped (log ++ more) = skipped log ++ skipped more :=
  List.filterMap_append

theorem hooksAfter_append (h : HooksAfter log)
    (hmore : ∀ index outcome, .hook index outcome ∈ more → (index, outcome) ∈ answered log) :
    HooksAfter (log ++ more) := by
  intro earlier later index outcome hspl
  rcases List.append_eq_append_iff.mp hspl with ⟨rest, hear, hrest⟩ | ⟨rest, hlog, hlater⟩
  · rw [hear, answered_append]
    refine List.mem_append_left _ (hmore index outcome ?_)
    rw [hrest]
    exact List.mem_append_right _ List.mem_cons_self
  · cases rest with
    | nil =>
      rw [List.append_nil] at hlog
      rw [← hlog]
      refine hmore index outcome ?_
      rw [← List.nil_append more, ← hlater]
      exact List.mem_cons_self
    | cons first rest =>
      obtain ⟨rfl, -⟩ := List.cons.inj hlater
      exact h earlier rest index outcome hlog

/-- The hooks of a sub-batch, one after the other. -/
def hooksOf (current : List (Fin n)) (outcomes : List IngestMessageOutcome) : List (BatchEvent n) :=
  (current.zip outcomes).map fun answer => .hook answer.1 answer.2

variable {current : List (Fin n)} {outcomes : List IngestMessageOutcome}

@[simp] theorem committed_hooksOf : committed (hooksOf current outcomes) = [] := by
  simp [committed, hooksOf, BatchEvent.indexes, List.flatMap_map]

@[simp] theorem answered_hooksOf : answered (hooksOf current outcomes) = [] := by
  simp [answered, hooksOf, BatchEvent.answers, List.flatMap_map]

@[simp] theorem hooked_hooksOf : hooked (hooksOf current outcomes) = current.zip outcomes := by
  simp [hooked, hooksOf, List.filterMap_map, Function.comp_def, BatchEvent.hooked]

@[simp] theorem skipped_hooksOf : skipped (hooksOf current outcomes) = [] := by
  simp [skipped, hooksOf, List.filterMap_map, Function.comp_def, BatchEvent.skipped]

theorem mem_hooksOf {index : Fin n} {outcome : IngestMessageOutcome} :
    .hook index outcome ∈ hooksOf current outcomes ↔ (index, outcome) ∈ current.zip outcomes := by
  simp [hooksOf]

end Log

/-! ## A step -/

section Loop

variable {W M : Type} {ports : Ports W M} {batch : List M} {valid : M → Bool}
  {before : IngestionMetrics} {s s' : BatchState W batch.length}

theorem firePostHooks_spec {outcomes : List IngestMessageOutcome} {current : List (Fin batch.length)}
    (hlen : outcomes.length = current.length) :
    (s.firePostHooks ports batch outcomes current).log = s.log ++ hooksOf current outcomes ∧
      (s.firePostHooks ports batch outcomes current).metrics = s.metrics ∧
      (s.firePostHooks ports batch outcomes current).stage = s.stage := by
  induction outcomes generalizing current s with
  | nil =>
    obtain rfl := List.length_eq_zero_iff.mp hlen.symm
    exact ⟨(List.append_nil s.log).symm, rfl, rfl⟩
  | cons outcome outcomes ih =>
    cases current with
    | nil => cases hlen
    | cons index current =>
      rw [BatchState.firePostHooks]
      obtain ⟨hlog, hmetr, hstage⟩ := ih (s := { s with
        world := (ports.firePostHooks outcome (batch.get index) s.world).2
        log := s.log ++ [.hook index outcome] }) (Nat.succ.inj hlen)
      refine ⟨?_, hmetr, hstage⟩
      rw [hlog, List.append_assoc]
      rfl

/-- What becomes of a sub-batch. -/
inductive Inserted (ports : Ports W M) (batch : List M) (s : BatchState W batch.length)
    (current : List (Fin batch.length)) (queue : List (List (Fin batch.length))) :
    BatchState W batch.length → Prop
  | commit {outcomes : List IngestMessageOutcome} {world : W}
      (h : ports.insertMessagesIfAbsent (current.map batch.get) s.world = (.ok outcomes, world)) :
      Inserted ports batch s current queue (s.commit ports batch current queue outcomes world)
  | skip {index : Fin batch.length} {text : String} {world : W} (hone : current = [index])
      (h : ports.insertMessagesIfAbsent (current.map batch.get) s.world =
        (.error (.invalidData text), world)) :
      Inserted ports batch s current queue (s.skip ports batch index queue world)
  | split {world : W} (hmany : 2 ≤ current.length) :
      Inserted ports batch s current queue (s.split batch current queue world)
  | retry {error : InboundEventStoreError} {world : W}
      (h : ports.insertMessagesIfAbsent (current.map batch.get) s.world = (.error error, world))
      (htran : Transient (α := List IngestMessageOutcome) (.error error)) :
      Inserted ports batch s current queue (s.retry batch current world)

theorem step_insert {current : List (Fin batch.length)} {queue : List (List (Fin batch.length))}
    (hstage : s.stage = .insert current queue) (hne : current ≠ []) :
    Inserted ports batch s current queue (s.step ports batch) := by
  rw [BatchState.step, hstage]
  dsimp only
  rcases hcall : ports.insertMessagesIfAbsent (current.map batch.get) s.world with ⟨answer, world⟩
  match answer, current with
  | .ok outcomes, current => exact .commit hcall
  | .error (.invalidData text), [index] => exact .skip rfl hcall
  | .error (.invalidData text), first :: second :: rest =>
    exact .split (Nat.le_add_left 2 rest.length)
  | .error .unavailable, first :: rest => exact .retry hcall trivial
  | .error (.database text), first :: rest => exact .retry hcall trivial
  | .error .leaseLost, first :: rest => exact .retry hcall trivial
  | .error _, [] => exact absurd rfl hne

/-! ## What is settled -/

def BatchEvent.settled {n : ℕ} : BatchEvent n → List (Fin n)
  | .committed indexes _ => indexes
  | .invalidGap index => [index]
  | _ => []

/-- The messages that are inserted or left out, in the order in which this was done. -/
def settled {n : ℕ} (log : List (BatchEvent n)) : List (Fin n) := log.flatMap BatchEvent.settled

/-- The messages that are still to be inserted. -/
def BatchStage.pending {n : ℕ} : BatchStage n → List (Fin n)
  | .next queue => queue.flatten
  | .insert current queue => current ++ queue.flatten
  | .returned => []
  | .panicked => []

/-- A call of the store has something to insert. -/
def BatchStage.Sensible {n : ℕ} : BatchStage n → Prop
  | .insert current _ => current ≠ []
  | .panicked => False
  | _ => True

/-- An event that settles nothing. -/
def BatchEvent.Quiet {n : ℕ} : BatchEvent n → Prop
  | .overflowGap | .retried _ => True
  | _ => False

structure Going (batch : List M) (valid : M → Bool) (before : IngestionMetrics)
    (s : BatchState W batch.length) : Prop where
  sensible : s.stage.Sensible
  order : settled s.log ++ s.stage.pending = List.finRange batch.length
  commits : committed s.log = (settled s.log).filter fun i => valid (batch.get i)
  skips : skipped s.log = (settled s.log).filter fun i => !valid (batch.get i)
  hooks : hooked s.log = answered s.log
  answers : (answered s.log).map Prod.fst = committed s.log
  hooksAfter : HooksAfter s.log
  countAccepted : s.metrics.accepted.toNat = (before.accepted.toNat +
    (answered s.log).countP fun answer => isAccepted answer.2) % 2 ^ 64
  countDuplicates : s.metrics.duplicates.toNat = (before.duplicates.toNat +
    (answered s.log).countP fun answer => isDuplicate answer.2) % 2 ^ 64
  countInvalid : s.metrics.invalid.toNat =
    (before.invalid.toNat + (skipped s.log).length) % 2 ^ 64
  countCommitted : s.metrics.committed.toNat =
    min (before.committed.toNat + (committed s.log).length) (2 ^ 64 - 1)

@[simp] theorem settled_append {n : ℕ} {log more : List (BatchEvent n)} :
    settled (log ++ more) = settled log ++ settled more :=
  List.flatMap_append

@[simp] theorem settled_hooksOf {n : ℕ} {current : List (Fin n)}
    {outcomes : List IngestMessageOutcome} : settled (hooksOf current outcomes) = [] := by
  simp [settled, hooksOf, BatchEvent.settled, List.flatMap_map]

theorem Going.keep (h : Going batch valid before s) (hsens : s'.stage.Sensible)
    (hpend : s'.stage.pending = s.stage.pending)
    (hlog : s'.log = s.log ∨ ∃ event : BatchEvent batch.length, event.Quiet ∧
      s'.log = s.log ++ [event])
    (hacpt : s'.metrics.accepted = s.metrics.accepted)
    (hdupl : s'.metrics.duplicates = s.metrics.duplicates)
    (hinv : s'.metrics.invalid = s.metrics.invalid)
    (hcomm : s'.metrics.committed = s.metrics.committed) : Going batch valid before s' := by
  have hsame : settled s'.log = settled s.log ∧ committed s'.log = committed s.log ∧
      skipped s'.log = skipped s.log ∧ hooked s'.log = hooked s.log ∧
      answered s'.log = answered s.log ∧ HooksAfter s'.log := by
    rcases hlog with hlog | ⟨event, hquiet, hlog⟩
    · rw [hlog]
      exact ⟨rfl, rfl, rfl, rfl, rfl, h.hooksAfter⟩
    · rw [hlog]
      cases event with
      | overflowGap =>
        refine ⟨by simp [settled, BatchEvent.settled], by simp [committed, BatchEvent.indexes],
          by simp [skipped, BatchEvent.skipped], by simp [hooked, BatchEvent.hooked],
          by simp [answered, BatchEvent.answers], hooksAfter_append h.hooksAfter (by simp)⟩
      | retried indexes =>
        refine ⟨by simp [settled, BatchEvent.settled], by simp [committed, BatchEvent.indexes],
          by simp [skipped, BatchEvent.skipped], by simp [hooked, BatchEvent.hooked],
          by simp [answered, BatchEvent.answers], hooksAfter_append h.hooksAfter (by simp)⟩
      | committed => exact hquiet.elim
      | hook => exact hquiet.elim
      | invalidGap => exact hquiet.elim
  obtain ⟨hset, hcom, hskips, hhooks, hanss, haft⟩ := hsame
  exact {
    sensible := hsens
    order := by rw [hset, hpend, h.order]
    commits := by rw [hcom, hset, h.commits]
    skips := by rw [hskips, hset, h.skips]
    hooks := by rw [hhooks, hanss, h.hooks]
    answers := by rw [hanss, hcom, h.answers]
    hooksAfter := haft
    countAccepted := by rw [hacpt, hanss, h.countAccepted]
    countDuplicates := by rw [hdupl, hanss, h.countDuplicates]
    countInvalid := by rw [hinv, hskips, h.countInvalid]
    countCommitted := by rw [hcomm, hcom, h.countCommitted] }

theorem Going.start (world : W) (metrics : IngestionMetrics) :
    Going batch valid metrics (.start batch world metrics) where
  sensible := trivial
  order := by simp [settled, BatchState.start, BatchStage.pending]
  commits := rfl
  skips := rfl
  hooks := rfl
  answers := rfl
  hooksAfter := by simp [HooksAfter, BatchState.start]
  countAccepted := (Nat.mod_eq_of_lt metrics.accepted.toNat_lt).symm
  countDuplicates := (Nat.mod_eq_of_lt metrics.duplicates.toNat_lt).symm
  countInvalid := (Nat.mod_eq_of_lt metrics.invalid.toNat_lt).symm
  countCommitted := (Nat.min_eq_left (Nat.le_pred_of_lt metrics.committed.toNat_lt)).symm

section Insert

variable {current : List (Fin batch.length)} {queue : List (List (Fin batch.length))}
  {outcomes : List IngestMessageOutcome} {world : W}

theorem countP_zip {α β : Type} (p : β → Bool) {as : List α} {bs : List β}
    (hlen : bs.length = as.length) : (as.zip bs).countP (fun pair => p pair.2) = bs.countP p := by
  conv_rhs => rw [← List.map_snd_zip hlen.le]
  rw [List.countP_map]
  rfl

/-- A sub-batch without an invalid message is settled by its commit, before its hooks are fired. -/
theorem Going.commit (h : Going batch valid before s) (hstage : s.stage = .insert current queue)
    (hval : ∀ index ∈ current, valid (batch.get index) = true)
    (hlen : outcomes.length = current.length) :
    Going batch valid before (s.commit ports batch current queue outcomes world) := by
  rw [BatchState.commit]
  generalize hbetween : BatchState.mk world
    ((s.metrics.recordOutcomes outcomes current.length).recordCommitted current) (.next queue)
    (s.log ++ [.committed current outcomes]) = between
  have hspec := @firePostHooks_spec W M ports batch between outcomes current hlen
  obtain ⟨hlog, hmetr, hnext⟩ := hspec
  generalize BatchState.firePostHooks ports batch outcomes current between = after at *
  subst hbetween
  dsimp only at hlog hmetr hnext
  obtain ⟨hacpt, hdupl, hinv⟩ :=
    recordCommitted_eq current (s.metrics.recordOutcomes outcomes current.length)
  have hone : settled [.committed current outcomes] = current ∧
      committed [.committed current outcomes] = current ∧
      answered [.committed current outcomes] = current.zip outcomes ∧
      hooked [.committed current outcomes] = [] ∧ skipped [.committed current outcomes] = [] := by
    simp [settled, committed, answered, hooked, skipped, BatchEvent.settled, BatchEvent.indexes,
      BatchEvent.answers, BatchEvent.hooked, BatchEvent.skipped]
  obtain ⟨hset, hcom, hanss, hhooks, hskips⟩ := hone
  have hset : settled after.log = settled s.log ++ current := by
    rw [hlog, settled_append, settled_append, hset, settled_hooksOf, List.append_nil]
  have hcom : committed after.log = committed s.log ++ current := by
    rw [hlog, committed_append, committed_append, hcom, committed_hooksOf, List.append_nil]
  have hskips : skipped after.log = skipped s.log := by
    rw [hlog, skipped_append, skipped_append, hskips, skipped_hooksOf, List.append_nil,
      List.append_nil]
  have hhooks : hooked after.log = hooked s.log ++ current.zip outcomes := by
    rw [hlog, hooked_append, hooked_append, hhooks, hooked_hooksOf, List.append_nil]
  have haft : HooksAfter after.log := by
    rw [hlog]
    refine hooksAfter_append (hooksAfter_append h.hooksAfter (by simp)) ?_
    intro index outcome hhook
    rw [answered_append, hanss]
    exact List.mem_append_right _ (mem_hooksOf.mp hhook)
  have hanss : answered after.log = answered s.log ++ current.zip outcomes := by
    rw [hlog, answered_append, answered_append, hanss, answered_hooksOf, List.append_nil]
  have hord := h.order
  rw [hstage] at hord
  have hall : (current.filter fun i => valid (batch.get i)) = current :=
    List.filter_eq_self.mpr hval
  have hnone : (current.filter fun i => !valid (batch.get i)) = [] :=
    List.filter_eq_nil_iff.mpr fun index hindex => by rw [hval index hindex]; decide
  exact {
    sensible := by rw [hnext]; trivial
    order := by rw [hnext, hset, List.append_assoc]; exact hord
    commits := by rw [hcom, hset, List.filter_append, h.commits, hall]
    skips := by rw [hskips, hset, List.filter_append, h.skips, hnone, List.append_nil]
    hooks := by rw [hhooks, hanss, h.hooks]
    answers := by
      rw [hanss, hcom, List.map_append, h.answers, List.map_fst_zip hlen.ge]
    hooksAfter := haft
    countAccepted := by
      rw [hmetr, hacpt, hanss, List.countP_append, countP_zip isAccepted hlen]
      show (s.metrics.accepted + UInt64.ofNat (outcomes.countP isAccepted)).toNat = _
      rw [toNat_add_ofNat, h.countAccepted, Nat.mod_add_mod, Nat.add_assoc]
    countDuplicates := by
      rw [hmetr, hdupl, hanss, List.countP_append, countP_zip isDuplicate hlen]
      show (s.metrics.duplicates + UInt64.ofNat (outcomes.countP isDuplicate)).toNat = _
      rw [toNat_add_ofNat, h.countDuplicates, Nat.mod_add_mod, Nat.add_assoc]
    countInvalid := by
      rw [hmetr, hinv, hskips]
      exact h.countInvalid
    countCommitted := by
      rw [hmetr, recordCommitted_toNat, hcom, List.length_append]
      show min (s.metrics.committed.toNat + _) _ = _
      rw [h.countCommitted]
      omega }

theorem Going.skip (h : Going batch valid before s) {index : Fin batch.length}
    (hstage : s.stage = .insert [index] queue) (hinv : valid (batch.get index) = false) :
    Going batch valid before (s.skip ports batch index queue world) := by
  have hone : settled [.invalidGap index] = [index] ∧ committed [.invalidGap index] = [] ∧
      answered [.invalidGap index] = [] ∧ hooked [.invalidGap index] = [] ∧
      skipped [.invalidGap index] = [index] := by
    simp [settled, committed, answered, hooked, skipped, BatchEvent.settled, BatchEvent.indexes,
      BatchEvent.answers, BatchEvent.hooked, BatchEvent.skipped]
  obtain ⟨hset, hcom, hanss, hhooks, hskips⟩ := hone
  have hord := h.order
  rw [hstage] at hord
  rw [List.get_eq_getElem] at hinv
  exact {
    sensible := trivial
    order := by simpa [BatchState.skip, hset, BatchStage.pending] using hord
    commits := by simp [BatchState.skip, hset, hcom, h.commits, hinv]
    skips := by simp [BatchState.skip, hset, hskips, h.skips, hinv]
    hooks := by simp [BatchState.skip, hhooks, hanss, h.hooks]
    answers := by simp [BatchState.skip, hanss, hcom, h.answers]
    hooksAfter := hooksAfter_append h.hooksAfter (by simp)
    countAccepted := by simp [BatchState.skip, hanss, h.countAccepted]
    countDuplicates := by simp [BatchState.skip, hanss, h.countDuplicates]
    countInvalid := by
      show (s.metrics.invalid + UInt64.ofNat 1).toNat = _
      rw [toNat_add_ofNat, h.countInvalid, Nat.mod_add_mod]
      simp [BatchState.skip, hskips, Nat.add_assoc]
    countCommitted := by simp [BatchState.skip, hcom, h.countCommitted] }

theorem Going.split (h : Going batch valid before s) (hstage : s.stage = .insert current queue) :
    Going batch valid before (s.split batch current queue world) :=
  h.keep trivial (by rw [hstage]; simp [BatchState.split, BatchStage.pending, ← List.append_assoc])
    (.inl rfl) rfl rfl rfl rfl

theorem Going.retry (h : Going batch valid before s) :
    Going batch valid before (s.retry batch current world) :=
  h.keep (by show s.stage.Sensible; exact h.sensible) rfl (.inr ⟨.retried current, trivial, rfl⟩)
    rfl rfl rfl rfl

end Insert

theorem persistOverflowGap_spec (ports : Ports W M) (s : BatchState W batch.length) :
    ((s.persistOverflowGap ports).log = s.log ∨
        (s.persistOverflowGap ports).log = s.log ++ [.overflowGap]) ∧
      (s.persistOverflowGap ports).metrics.accepted = s.metrics.accepted ∧
      (s.persistOverflowGap ports).metrics.duplicates = s.metrics.duplicates ∧
      (s.persistOverflowGap ports).metrics.invalid = s.metrics.invalid ∧
      (s.persistOverflowGap ports).metrics.committed = s.metrics.committed := by
  rw [BatchState.persistOverflowGap]
  split
  · dsimp only
    split
    · exact ⟨.inr rfl, rfl, rfl, rfl, rfl⟩
    · exact ⟨.inr rfl, rfl, rfl, rfl, rfl⟩
  · exact ⟨.inl rfl, rfl, rfl, rfl, rfl⟩

theorem Going.inserted (hports : Poisonable ports valid) (h : Going batch valid before s)
    {current : List (Fin batch.length)} {queue : List (List (Fin batch.length))}
    (hstage : s.stage = .insert current queue) (hstep : Inserted ports batch s current queue s') :
    Going batch valid before s' := by
  cases hstep with
  | commit hcall =>
    obtain ⟨hval, hlen⟩ := hports.inserted _ _ _ _ hcall
    refine h.commit hstage (fun index hindex => hval _ (List.mem_map_of_mem hindex)) ?_
    rw [hlen, List.length_map]
  | skip hone hcall =>
    subst hone
    obtain ⟨message, hmsg, hinv⟩ := hports.refused _ _ _ _ hcall
    obtain ⟨index, hindex, rfl⟩ := List.mem_map.mp hmsg
    obtain rfl := List.mem_singleton.mp hindex
    exact h.skip hstage hinv
  | split _ => exact h.split hstage
  | retry _ _ => exact h.retry

theorem Going.step (hports : Poisonable ports valid) (h : Going batch valid before s) :
    Going batch valid before (s.step ports batch) := by
  match hstage : s.stage with
  | .next [] =>
    rw [BatchState.step, hstage]
    exact h.keep trivial (by rw [hstage]; rfl) (.inl rfl) rfl rfl rfl rfl
  | .next ([] :: queue) =>
    rw [BatchState.step, hstage]
    exact h.keep trivial (by rw [hstage]; rfl) (.inl rfl) rfl rfl rfl rfl
  | .next ((first :: rest) :: queue) =>
    rw [BatchState.step, hstage]
    obtain ⟨hlog, hacpt, hdupl, hinv, hcomm⟩ := persistOverflowGap_spec ports s
    refine h.keep (List.cons_ne_nil first rest) (by rw [hstage]; rfl) ?_ hacpt hdupl
      hinv hcomm
    exact hlog.imp_right fun hlog => ⟨.overflowGap, trivial, hlog⟩
  | .insert current queue =>
    have hne : current ≠ [] := by
      have hsens := h.sensible
      rwa [hstage] at hsens
    exact h.inserted hports hstage (step_insert hstage hne)
  | .returned =>
    rw [BatchState.step, hstage]
    exact h
  | .panicked =>
    rw [BatchState.step, hstage]
    exact h

/-! ## The end of the loop -/

/-- The calls that a sub-batch may take, more than those of its halves. -/
def size {n : ℕ} (indexes : List (Fin n)) : ℕ := max 1 (6 * indexes.length - 3)

def BatchStage.weight {n : ℕ} : BatchStage n → ℕ
  | .next queue => (queue.map size).sum + 1
  | .insert current queue => size current + (queue.map size).sum
  | .returned => 0
  | .panicked => 0

theorem weight_inserted {current : List (Fin batch.length)}
    {queue : List (List (Fin batch.length))} (hne : current ≠ [])
    (hstep : Inserted ports batch s current queue s') (hports : Poisonable ports valid) :
    s'.stage.weight < (BatchStage.insert current queue).weight ∨ ∃ world error,
      ports.insertMessagesIfAbsent (current.map batch.get) s.world = (.error error, world) ∧
        Transient (α := List IngestMessageOutcome) (.error error) ∧
          s' = s.retry batch current world := by
  have hpos : 0 < current.length := List.length_pos_iff.mpr hne
  cases hstep with
  | commit hcall =>
    left
    have hlen := (hports.inserted _ _ _ _ hcall).2
    rw [List.length_map] at hlen
    rw [BatchState.commit, (firePostHooks_spec hlen).2.2]
    simp only [BatchStage.weight, size]
    omega
  | skip hone hcall =>
    left
    subst hone
    simp only [BatchState.skip, BatchStage.weight, size, List.length_singleton]
    omega
  | split hmany =>
    left
    simp only [BatchState.split, BatchStage.weight, size, List.map_cons, List.sum_cons,
      List.length_take, List.length_drop]
    omega
  | retry hcall htran => exact .inr ⟨_, _, hcall, htran, rfl⟩

/-- The store answers after finitely many failures, and then there is less to do. -/
theorem insert_ends (hports : Poisonable ports valid) {current : List (Fin batch.length)}
    {queue : List (List (Fin batch.length))} (hne : current ≠ [])
    (hstage : s.stage = .insert current queue) :
    Eventually (BatchState.step ports batch) (fun t => t.stage.weight < s.stage.weight) s := by
  rw [hstage]
  have hanss := hports.answers (current.map batch.get) s.world
  generalize hwd : s.world = world at hanss
  induction hanss generalizing s with
  | now hansw =>
    subst hwd
    rcases weight_inserted hne (step_insert hstage hne) hports with hless | ⟨_, _, hcall, htran, -⟩
    · exact .later (.now hless)
    · rw [hcall] at hansw
      exact absurd htran hansw
  | later _ ih =>
    subst hwd
    rcases weight_inserted hne (step_insert hstage hne) hports with hless | ⟨world, _, hcall, -, hretry⟩
    · exact .later (.now hless)
    · refine .later (ih ?_ ?_)
      · rw [hretry]
        exact hstage
      · rw [hretry, hcall]
        rfl

theorem step_ends (hports : Poisonable ports valid) (h : Going batch valid before s)
    (hgoing : s.stage ≠ .returned) :
    Eventually (BatchState.step ports batch) (fun t => t.stage.weight < s.stage.weight) s := by
  match hstage : s.stage with
  | .next [] =>
    refine .later (.now ?_)
    rw [BatchState.step, hstage]
    exact Nat.zero_lt_succ _
  | .next ([] :: queue) =>
    refine .later (.now ?_)
    rw [BatchState.step, hstage]
    simp only [BatchStage.weight, size, List.map_cons, List.sum_cons, List.length_nil]
    omega
  | .next ((first :: rest) :: queue) =>
    refine .later (.now ?_)
    rw [BatchState.step, hstage]
    simp only [BatchStage.weight, List.map_cons, List.sum_cons]
    omega
  | .insert current queue =>
    have hne : current ≠ [] := by
      have hsens := h.sensible
      rwa [hstage] at hsens
    have hends := insert_ends hports hne hstage
    rwa [hstage] at hends
  | .returned => exact absurd hstage hgoing
  | .panicked =>
    have hsens := h.sensible
    rw [hstage] at hsens
    exact hsens.elim

theorem loop_ends (hports : Poisonable ports valid) (h : Going batch valid before s) :
    ∃ n, ((BatchState.step ports batch)^[n] s).stage = .returned :=
  @iterate_ends _ (BatchState.step ports batch) (Going batch valid before)
    (fun s => s.stage = .returned) s (fun s => s.stage.weight) (fun _ h => h.step hports)
    (fun _ h hgoing => step_ends hports h hgoing) h

theorem Going.isolated (h : Going batch valid before s) (hret : s.stage = .returned) :
    Isolated batch valid before s := by
  have hset : settled s.log = List.finRange batch.length := by
    have hord := h.order
    rw [hret] at hord
    simpa [BatchStage.pending] using hord
  exact {
    commits := by rw [h.commits, hset]
    skips := by rw [h.skips, hset]
    hooks := h.hooks
    answers := h.answers
    hooksAfter := h.hooksAfter
    countAccepted := h.countAccepted
    countDuplicates := h.countDuplicates
    countInvalid := h.countInvalid
    countCommitted := h.countCommitted }

/-- Every batch is processed, and its invalid messages are isolated. -/
theorem batch_isolated (ports : Ports W M) (valid : M → Bool) (hports : Poisonable ports valid)
    (batch : List M) (world : W) (metrics : IngestionMetrics) :
    (∃ final, Processed ports batch world metrics final) ∧
      ∀ final, Processed ports batch world metrics final → Isolated batch valid metrics final := by
  have hsta : Going batch valid metrics (.start batch world metrics) := .start world metrics
  constructor
  · obtain ⟨n, hret⟩ := loop_ends hports hsta
    exact ⟨_, n, rfl, hret⟩
  · rintro final ⟨n, rfl, hret⟩
    exact (iterate_invariant (fun _ h => h.step hports) hsta n).isolated hret

end Loop

/-! ## An empty message between two others -/

namespace Scripted

def stored : SourceEventId := ⟨"accepted-row", by decide⟩

def isValid (text : String) : Bool := text ≠ ""

/-- A store that is unavailable for as many calls as the world says. -/
def ports : Ports ℕ String where
  insertMessagesIfAbsent messages
    | 0 =>
      if messages.all isValid then (.ok (messages.map fun _ => .accepted stored none), 0)
      else (.error (.invalidData "empty"), 0)
    | failures + 1 => (.error .unavailable, failures)
  markConnectionUncertain _ failures := (.ok (), failures)
  firePostHooks _ _ failures := (.ok (), failures)
  gapNeedsPersistence _ := false
  markGapPersisted failures := failures

theorem ports_poisonable : Poisonable ports isValid where
  inserted messages failures outcomes failures' h := by
    cases failures with
    | succ failures => cases h
    | zero =>
      dsimp only [ports] at h
      split at h
      · next hall =>
        cases h
        exact ⟨List.all_eq_true.mp hall, List.length_map _⟩
      · cases h
  refused messages failures text failures' h := by
    cases failures with
    | succ failures => cases h
    | zero =>
      dsimp only [ports] at h
      split at h
      · cases h
      · next hsome => simpa using hsome
  answers messages failures := by
    induction failures with
    | zero =>
      refine .now ?_
      dsimp only [ports]
      split
      · exact id
      · exact id
    | succ failures ih => exact .later ih

def zero : IngestionMetrics := ⟨0, 0, 0, 0, 0, 0, 0, 0, 0⟩

end Scripted

open Scripted in
theorem empty_message_isolated :
    (∃ final, Processed ports ["good", "", "night"] 2 zero final) ∧
      ∀ final, Processed ports ["good", "", "night"] 2 zero final →
        Isolated ["good", "", "night"] isValid zero final :=
  batch_isolated ports isValid ports_poisonable ["good", "", "night"] 2 zero

end ServerRS.Ingestion

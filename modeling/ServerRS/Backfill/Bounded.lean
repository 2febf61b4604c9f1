import ServerRS.Backfill.ScopeInvariant
import ServerRS.Lib.Folds

/-!
# A run is bounded

The source may serve any pages at all: it may never stop, go round in circles, or return messages
of other conversations. `backfill_bounded` says that a run stays within its budget all the same,
wherever it is stopped. A scope asks for as many pages as the budget has left after the ones that
were read before; the rows never count more events than the budget allows; and a message that is
passed to the store is of its scope and comes from a page without anomalies.

`Spent` says what a part of a run has done in its scope.
-/

namespace ServerRS.Backfill

open Lib Stepwise

/-! ## Events -/

def BackfillEvent.scope : BackfillEvent → BackfillScope
  | .fetching scope | .read scope _ | .inserting scope _ | .inserted scope _ _ => scope

def BackfillEvent.isFetch (scope : BackfillScope) : BackfillEvent → Bool
  | .fetching other => other = scope
  | .read _ _ | .inserting _ _ | .inserted _ _ _ => false

/-- The calls of `fetch_page` for a scope. -/
def fetches (scope : BackfillScope) (events : List BackfillEvent) : ℕ :=
  events.countP (BackfillEvent.isFetch scope)

/-- The message is of a page that was read, and that `validate_page` has nothing against. -/
def FromSoundPage (source : HistoryBackfillSource) (budget : BackfillBudget) (scope : BackfillScope)
    (events : List BackfillEvent) (item : BackfillHistoryItem) : Prop :=
  ∃ before cursor page chain,
    (before.add (.read scope (before.available scope))).events <+: events ∧
    source.fetchPage before scope cursor budget.pageSize = .ok page ∧
    validatePage scope cursor page chain source.pageOrderEvidenceProven = [] ∧ item ∈ page.items

/-- What a part of a run did: it worked on the scope only, asked for so many pages, and passed on
messages of sound pages. -/
def Spent (source : HistoryBackfillSource) (budget : BackfillBudget) (scope : BackfillScope)
    (pages : ℕ) (world world' : BackfillWorld) : Prop :=
  ∃ new, world'.events = world.events ++ new ∧ (∀ event ∈ new, event.scope = scope) ∧
    fetches scope new ≤ pages ∧
    ∀ item, .inserting scope item ∈ new → FromSoundPage source budget scope world'.events item

variable {store : BackfillStore} {source : HistoryBackfillSource} {budget : BackfillBudget}
  {scope : BackfillScope} {world world' : BackfillWorld} {account : SourceAccountRef}
  {events : List BackfillEvent} {item : BackfillHistoryItem} {others : ℕ}
  {items : List BackfillHistoryItem} {page : BackfillPage} {loop : ScopeLoop}
  {rows : List ScopeProgress}

theorem FromSoundPage.mono {events' : List BackfillEvent}
    (h : FromSoundPage source budget scope events item) (hevs : events <+: events') :
    FromSoundPage source budget scope events' item := by
  obtain ⟨before, cursor, page, chain, hread, hfet, hsnd, hitem⟩ := h
  exact ⟨before, cursor, page, chain, hread.trans hevs, hfet, hsnd, hitem⟩

namespace Spent

variable {pages pages' : ℕ} {world'' : BackfillWorld}

theorem of_eq (h : world'.events = world.events) : Spent source budget scope 0 world world' :=
  ⟨[], by rw [h, List.append_nil], fun _ hev => absurd hev List.not_mem_nil, Nat.le_refl _,
    fun _ hitem => absurd hitem List.not_mem_nil⟩

theorem mono (h : Spent source budget scope pages world world') (hpages : pages ≤ pages') :
    Spent source budget scope pages' world world' := by
  obtain ⟨new, hnew, hsc, hfetc, hsnd⟩ := h
  exact ⟨new, hnew, hsc, hfetc.trans hpages, hsnd⟩

theorem trans (h : Spent source budget scope pages world world')
    (h' : Spent source budget scope pages' world' world'') :
    Spent source budget scope (pages + pages') world world'' := by
  obtain ⟨new, hnew, hsc, hfetc, hsnd⟩ := h
  obtain ⟨new', hnew', hsc', hfetc', hsnd'⟩ := h'
  have hgrown : world'.events <+: world''.events := ⟨new', hnew'.symm⟩
  refine ⟨new ++ new', by rw [hnew', hnew, List.append_assoc], ?_, ?_, fun item hitem => ?_⟩
  · exact List.forall_mem_append.mpr ⟨hsc, hsc'⟩
  · rw [fetches, List.countP_append]
    exact Nat.add_le_add hfetc hfetc'
  · rcases List.mem_append.mp hitem with hitem | hitem
    · exact (hsnd item hitem).mono hgrown
    · exact hsnd' item hitem

theorem prefix_events (h : Spent source budget scope pages world world') :
    world.events <+: world'.events := by
  obtain ⟨new, hnew, -⟩ := h
  exact ⟨new, hnew.symm⟩

theorem fetching : Spent source budget scope 1 world (world.add (.fetching scope)) := by
  refine ⟨[.fetching scope], rfl, List.forall_mem_singleton.mpr rfl, List.countP_le_length, ?_⟩
  intro item hitem
  cases List.mem_singleton.mp hitem

theorem read (available : List BackfillHistoryItem) :
    Spent source budget scope 0 world (world.add (.read scope available)) := by
  refine ⟨[.read scope available], rfl, List.forall_mem_singleton.mpr rfl, Nat.le_refl _, ?_⟩
  intro item hitem
  cases List.mem_singleton.mp hitem

theorem inserting {item : BackfillHistoryItem}
    (h : FromSoundPage source budget scope world.events item) :
    Spent source budget scope 0 world (world.add (.inserting scope item)) := by
  refine ⟨[.inserting scope item], rfl, List.forall_mem_singleton.mpr rfl, Nat.le_refl _, ?_⟩
  intro other hoth
  cases List.mem_singleton.mp hoth
  exact h.mono (List.prefix_append _ _)

theorem inserted (item : BackfillHistoryItem) (outcome : IngestMessageOutcome) :
    Spent source budget scope 0 world (world.add (.inserted scope item outcome)) := by
  refine ⟨[.inserted scope item outcome], rfl, List.forall_mem_singleton.mpr rfl, Nat.le_refl _, ?_⟩
  intro other hoth
  cases List.mem_singleton.mp hoth

end Spent

/-! ## Rows -/

structure RowsWithin (budget : BackfillBudget) (rows : List ScopeProgress) : Prop where
  keys : (rows.map fun row => scopeKeyOf row.conversation).Nodup
  pages : ∀ row ∈ rows, row.pagesRead ≤ budget.maxPagesPerScope
  counted : ∀ row ∈ rows, row.accepted + row.duplicates ≤ row.eventsRead
  events : (rows.map ScopeProgress.eventsRead).sum ≤ budget.maxEventsPerRun

def otherRows (key : String) (rows : List ScopeProgress) : List ScopeProgress :=
  rows.filter fun row => scopeKeyOf row.conversation ≠ key

def otherEvents (key : String) (rows : List ScopeProgress) : ℕ :=
  ((otherRows key rows).map ScopeProgress.eventsRead).sum

/-- The counters of a scope that is worked on, where `others` are the events of the other ones. -/
structure Counted (budget : BackfillBudget) (others : ℕ) (run : ScopeRun) : Prop where
  counted : run.progress.accepted + run.progress.duplicates ≤ run.progress.eventsRead
  total : others + run.progress.eventsRead = run.totalEvents
  limit : run.totalEvents ≤ budget.maxEventsPerRun

theorem otherRows_upsert {progress : ScopeProgress} {key : String}
    (h : scopeKeyOf progress.conversation = key) :
    otherRows key (world.upsert progress).rows = otherRows key world.rows := by
  subst h
  rw [otherRows, BackfillWorld.upsert, List.filter_append, List.filter_filter]
  simp [otherRows]

theorem RowsWithin.upsert (h : RowsWithin budget world.rows) {run : ScopeRun}
    (hpages : run.progress.pagesRead ≤ budget.maxPagesPerScope) (hctd : Counted budget
      (otherEvents (scopeKeyOf run.progress.conversation) world.rows) run) :
    RowsWithin budget (world.upsert run.progress).rows := by
  have hsub : ∀ row ∈ (world.upsert run.progress).rows, row ∈ world.rows ∨ row = run.progress := by
    intro row hrow
    rcases List.mem_append.mp hrow with hrow | hrow
    · exact .inl (List.mem_of_mem_filter hrow)
    · exact .inr (List.mem_singleton.mp hrow)
  refine ⟨?_, fun row hrow => ?_, fun row hrow => ?_, ?_⟩
  · rw [BackfillWorld.upsert, List.map_append, List.nodup_append]
    refine ⟨h.keys.sublist (List.filter_sublist.map _), List.nodup_singleton _, ?_⟩
    rintro key hkey other hoth rfl
    obtain ⟨row, hrow, rfl⟩ := List.mem_map.mp hkey
    have hnot : scopeKeyOf row.conversation ≠ scopeKeyOf run.progress.conversation := by
      simpa using (List.mem_filter.mp hrow).2
    exact hnot (List.mem_singleton.mp hoth)
  · rcases hsub row hrow with hrow | rfl
    · exact h.pages row hrow
    · exact hpages
  · rcases hsub row hrow with hrow | rfl
    · exact h.counted row hrow
    · exact hctd.counted
  · rw [BackfillWorld.upsert, List.map_append, List.sum_append, List.map_singleton,
      List.sum_singleton]
    exact hctd.total.trans_le hctd.limit

/-! ## The items of a page -/

theorem Counted.countEvent {run : PageRun} (h : Counted budget others run.toScopeRun)
    (hlim : ¬ budget.maxEventsPerRun ≤ run.totalEvents) :
    Counted budget others run.countEvent.toScopeRun where
  counted := h.counted.trans (Nat.le_succ _)
  total := congrArg Nat.succ h.total
  limit := Nat.lt_of_not_le hlim

/-- A message that was inserted is counted once more. -/
theorem Counted.ingested {run : PageRun} (h : Counted budget others run.toScopeRun)
    (hlim : ¬ budget.maxEventsPerRun ≤ run.totalEvents) (boundary : Bool)
    (outcome : IngestMessageOutcome) (anchor : BackfillAnchor) :
    Counted budget others ((run.countEvent.ingested boundary outcome).chain anchor).toScopeRun := by
  have hctd := h.counted
  obtain ⟨-, htotal, hle⟩ := h.countEvent hlim
  cases outcome <;> cases boundary <;> refine ⟨?_, htotal, hle⟩ <;>
    simp only [PageRun.chain, PageRun.ingested, PageRun.countEvent, ScopeProgress.push,
      Bool.false_eq_true, if_true, if_false] <;> omega

/-- What the loop over the items of a page did. -/
structure ItemsSpent (source : HistoryBackfillSource) (budget : BackfillBudget)
    (scope : BackfillScope) (others : ℕ) (world : BackfillWorld) (result : PageRun)
    (world' : BackfillWorld) : Prop where
  rows : world'.rows = world.rows
  spent : Spent source budget scope 0 world world'
  counted : Counted budget others result.toScopeRun

theorem ItemsSpent.after {result : PageRun} {world'' : BackfillWorld}
    (h : ItemsSpent source budget scope others world' result world'')
    (hrows : world'.rows = world.rows) (hspent : Spent source budget scope 0 world world') :
    ItemsSpent source budget scope others world result world'' :=
  ⟨h.rows.trans hrows, hspent.trans h.spent, h.counted⟩

theorem ingestItems_spent {run : PageRun}
    (hitems : ∀ item ∈ items, FromSoundPage source budget scope world.events item)
    (hrun : Counted budget others run.toScopeRun) :
    wp (ingestItems store source budget scope items run)
      (fun point => point.rows = world.rows ∧ Spent source budget scope 0 world point)
      (fun result world' => ItemsSpent source budget scope others world result.1 world')
      (fun _ _ => False) world := by
  induction items generalizing run world with
  | nil => exact wp_pure ⟨rfl, .of_eq rfl, hrun⟩
  | cons item rest ih =>
    obtain ⟨hitem, hrest⟩ := List.forall_mem_cons.mp hitems
    rw [ingestItems]
    split
    · exact wp_pure ⟨rfl, .of_eq rfl, ⟨hrun.counted, hrun.total, hrun.limit⟩⟩
    next hlim =>
    split
    · -- too old: counted, but not passed on
      have hskipped : Counted budget others
          ({ run.countEvent with configuredCutoffReached := true } : PageRun).toScopeRun :=
        hrun.countEvent hlim
      exact wp_mono (ih hrest hskipped) (fun _ hpt => hpt)
        (fun _ _ hres => hres.after rfl (.of_eq rfl)) fun _ _ hnever => hnever
    · have hins := Spent.inserting hitem
      refine wp_bind (insertMessageIfAbsent_wp ⟨rfl, hins⟩ (fun e => wp_pure ?_)
        fun outcome _ => ?_)
      · exact ⟨rfl, hins, hrun.countEvent hlim⟩
      · have hspent : Spent source budget scope 0 world
            ((world.add (.inserting scope item)).add (.inserted scope item outcome)) :=
          hins.trans (.inserted item outcome)
        refine ⟨⟨rfl, hspent⟩, ?_⟩
        have hctd := hrun.ingested hlim (isBoundary source scope item) outcome item.anchor
        dsimp only
        split
        · exact wp_pure ⟨rfl, hspent, hctd⟩
        · refine wp_mono (ih (fun other hoth => (hrest other hoth).mono hspent.prefix_events)
            hctd) (fun point hpt => ?_) (fun result world' hres => ?_)
            fun _ _ hnever => hnever
          · exact ⟨hpt.1, hspent.trans hpt.2⟩
          · exact hres.after rfl hspent

/-! ## The pages of a scope -/

theorem afterItems_run {run : PageRun} (source : HistoryBackfillSource) (scope : BackfillScope)
    (page : BackfillPage) (h : Counted budget others run.toScopeRun) :
    Counted budget others (afterItems source scope page run).run := by
  have hctd : ∀ {other : ScopeRun}, other.progress.accepted = run.progress.accepted →
      other.progress.duplicates = run.progress.duplicates →
      other.progress.eventsRead = run.progress.eventsRead → other.totalEvents = run.totalEvents →
      Counted budget others other := by
    intro other hacpt hdupl hevs htotal
    refine ⟨?_, ?_, htotal.trans_le h.limit⟩
    · rw [hacpt, hdupl, hevs]
      exact h.counted
    · rw [hevs, htotal]
      exact h.total
  unfold afterItems
  split
  · exact hctd rfl rfl rfl rfl
  split
  · exact hctd rfl rfl rfl rfl
  split
  · exact hctd rfl rfl rfl rfl
  · dsimp only
    split
    · split <;> exact hctd rfl rfl rfl rfl
    · exact hctd rfl rfl rfl rfl
  · exact hctd rfl rfl rfl rfl

theorem processPage_spent {before : BackfillWorld}
    (hfet : source.fetchPage before scope loop.cursor budget.pageSize = .ok page)
    (hwd : world = before.add (.read scope (before.available scope)))
    (hloop : Counted budget others loop.toScopeRun) :
    wp (processPage store source budget scope loop page)
      (fun point => point.rows = world.rows ∧ Spent source budget scope 0 world point)
      (fun ended world' => world'.rows = world.rows ∧ Spent source budget scope 0 world world' ∧
        Counted budget others ended.run)
      (fun _ _ => False) world := by
  have hctd : ∀ anomalies, Counted budget others
      ⟨{ loop.progress with pagesRead := loop.progress.pagesRead + 1, anomalies },
        loop.totalEvents⟩ := fun _ => ⟨hloop.counted, hloop.total, hloop.limit⟩
  rw [processPage]
  dsimp only
  split
  · exact wp_pure ⟨rfl, .of_eq rfl, hctd _⟩
  next hsnd =>
  obtain ⟨progress, hprog⟩ : ∃ progress, progress =
      (if source.pageOrderEvidenceProven then
        { loop.progress with pagesRead := loop.progress.pagesRead + 1 }
      else ScopeProgress.pushUnique
        { loop.progress with pagesRead := loop.progress.pagesRead + 1 } .untrustedPageOrder) :=
    ⟨_, rfl⟩
  have hprogressCounted : ∀ anomalies,
      Counted budget others ⟨{ progress with anomalies }, loop.totalEvents⟩ := by
    rw [hprog]
    split <;> exact hctd
  rw [← hprog]
  split
  · exact wp_pure ⟨rfl, .of_eq rfl, hprogressCounted _⟩
  have hitems : ∀ item ∈ page.items, FromSoundPage source budget scope world.events item :=
    fun item hitem => ⟨before, loop.cursor, page, loop.sessionChain, by rw [hwd], hfet,
      not_not.mp hsnd, hitem⟩
  refine wp_bind (wp_mono (ingestItems_spent hitems (hprogressCounted progress.anomalies))
    (fun _ hpt => hpt) ?_ fun _ _ hnever => hnever)
  rintro ⟨run, failure⟩ world' hrun
  dsimp only at hrun ⊢
  split
  · exact wp_pure ⟨hrun.rows, hrun.spent, hrun.counted⟩
  · exact wp_pure ⟨hrun.rows, hrun.spent, afterItems_run source scope page hrun.counted⟩

/-- What a part of a run that works on one scope leaves. -/
structure WorksOn (source : HistoryBackfillSource) (budget : BackfillBudget) (scope : BackfillScope)
    (pages : ℕ) (world world' : BackfillWorld) : Prop where
  rows : RowsWithin budget world'.rows
  others : otherRows scope.scopeKey world'.rows = otherRows scope.scopeKey world.rows
  spent : Spent source budget scope pages world world'

theorem WorksOn.trans {pages pages' : ℕ} {world'' : BackfillWorld}
    (h : WorksOn source budget scope pages world world')
    (h' : WorksOn source budget scope pages' world' world'') :
    WorksOn source budget scope (pages + pages') world world'' :=
  ⟨h'.rows, h'.others.trans h.others, h.spent.trans h'.spent⟩

theorem WorksOn.mono {pages pages' : ℕ} (h : WorksOn source budget scope pages world world')
    (hpages : pages ≤ pages') : WorksOn source budget scope pages' world world' :=
  ⟨h.rows, h.others, h.spent.mono hpages⟩

theorem WorksOn.otherEvents {pages : ℕ} (h : WorksOn source budget scope pages world world') :
    otherEvents scope.scopeKey world'.rows = otherEvents scope.scopeKey world.rows := by
  rw [Backfill.otherEvents, Backfill.otherEvents, h.others]

/-- The progress of a scope that may be recorded. -/
structure Recordable (budget : BackfillBudget) (scope : BackfillScope) (world : BackfillWorld)
    (run : ScopeRun) : Prop where
  conversation : run.progress.conversation = scope.conversation
  pages : run.progress.pagesRead ≤ budget.maxPagesPerScope
  counted : Counted budget (otherEvents scope.scopeKey world.rows) run

theorem WorksOn.upsert (hrows : RowsWithin budget world.rows) {run : ScopeRun}
    (h : Recordable budget scope world run) :
    WorksOn source budget scope 0 world (world.upsert run.progress) := by
  have hkey : scopeKeyOf run.progress.conversation = scope.scopeKey :=
    congrArg scopeKeyOf h.conversation
  refine ⟨hrows.upsert h.pages ?_, otherRows_upsert hkey, .of_eq rfl⟩
  rw [hkey]
  exact h.counted

theorem recordScopeProgress_spent (hrows : RowsWithin budget world.rows) {run : ScopeRun}
    (h : Recordable budget scope world run) {Q : Unit → BackfillWorld → Prop}
    (hdone : WorksOn source budget scope 0 world (world.upsert run.progress) →
      Q () (world.upsert run.progress)) :
    wp (recordScopeProgress store run.progress) (WorksOn source budget scope 0 world) Q
      (fun _ => WorksOn source budget scope 0 world) world :=
  have hstd : WorksOn source budget scope 0 world (world.upsert run.progress) := .upsert hrows h
  recordScopeProgress_wp hstd (hdone hstd) (fun _ => ⟨hrows, rfl, .of_eq rfl⟩)
    fun _ => hstd

theorem Recordable.of_worksOn {pages : ℕ} {run : ScopeRun} (h : Recordable budget scope world run)
    (hwd : WorksOn source budget scope pages world world') :
    Recordable budget scope world' run :=
  ⟨h.conversation, h.pages, hwd.otherEvents ▸ h.counted⟩

theorem WorksOn.of_spent {pages : ℕ} (hrows : RowsWithin budget world.rows)
    (h : Spent source budget scope pages world world') (hsame : world'.rows = world.rows) :
    WorksOn source budget scope pages world world' :=
  ⟨hsame ▸ hrows, by rw [hsame], h⟩

theorem WorksOn.refl (hrows : RowsWithin budget world.rows) :
    WorksOn source budget scope 0 world world := .of_spent hrows (.of_eq rfl) rfl

theorem Recordable.push {run : ScopeRun} (h : Recordable budget scope world run)
    (anomaly : BackfillAnomaly) : Recordable budget scope world (run.push anomaly) :=
  ⟨h.conversation, h.pages, h.counted.counted, h.counted.total, h.counted.limit⟩

/-- The loop over the pages asks for no more of them than the budget leaves it. -/
theorem pageLoop_spent {pages : ℕ} (hrows : RowsWithin budget world.rows)
    (hpages : budget.maxPagesPerScope - loop.progress.pagesRead = pages)
    (hloop : Recordable budget scope world loop.toScopeRun) :
    wp (pageLoop store source budget scope loop) (WorksOn source budget scope pages world)
      (fun result world' => WorksOn source budget scope pages world world' ∧
        Recordable budget scope world' result.1)
      (fun _ => WorksOn source budget scope pages world) world := by
  induction pages generalizing loop world with
  | zero =>
    rw [pageLoop, if_pos (Nat.le_of_sub_eq_zero hpages)]
    exact wp_pure ⟨.refl hrows, hloop.push _⟩
  | succ pages ih =>
    have hmono : ∀ {spent : ℕ} {point : BackfillWorld}, spent ≤ pages + 1 →
        WorksOn source budget scope spent world point →
        WorksOn source budget scope (pages + 1) world point := fun hle hpt => hpt.mono hle
    have hstay := hmono (Nat.zero_le _) (.refl hrows)
    rw [pageLoop, if_neg (by omega)]
    split
    · exact wp_pure ⟨hstay, hloop.push _⟩
    split
    · exact wp_pure ⟨hstay, hloop.push _⟩
    refine wp_bind (wp_mono (recordScopeProgress_spent hrows hloop fun hstd => ?_)
      (fun _ => hmono (Nat.zero_le _)) (fun _ _ h => h) fun _ _ => hmono (Nat.zero_le _))
    -- the page is asked for, messages may arrive, and it is read
    obtain ⟨asked, hasked⟩ : ∃ asked, asked = (world.upsert loop.progress).add (.fetching scope) :=
      ⟨_, rfl⟩
    obtain ⟨arrived, harr⟩ : ∃ arrived, arrived = asked.arrive scope
        (source.arrivals asked scope) := ⟨_, rfl⟩
    have haskedWorks : WorksOn source budget scope (0 + 1) world asked := by
      rw [hasked]
      exact hstd.trans (.of_spent hstd.rows .fetching rfl)
    have harrivedWorks : WorksOn source budget scope (0 + 1) world arrived := by
      have hsame : arrived.events = asked.events ∧ arrived.rows = asked.rows := by
        rw [harr]
        exact ⟨rfl, rfl⟩
      exact haskedWorks.trans (.of_spent haskedWorks.rows (.of_eq hsame.1) hsame.2)
    have hread := harrivedWorks.trans
      (.of_spent harrivedWorks.rows (Spent.read (arrived.available scope)) rfl)
    have hone : 0 + 1 ≤ pages + 1 := by omega
    rw [hasked] at harr haskedWorks
    refine wp_bind (fetchPage_wp harr (hmono hone haskedWorks) (hmono hone harrivedWorks)
      (fun e _ => wp_pure ⟨hmono hone harrivedWorks, hloop.of_worksOn harrivedWorks⟩)
      fun page hpage => ⟨hmono hone hread, ?_⟩)
    have hctd : Counted budget (otherEvents scope.scopeKey world.rows) loop.toScopeRun :=
      hloop.counted
    refine wp_bind (wp_mono (wp_attach (processPage_spent hpage rfl hctd)) (fun point hpt => ?_) ?_
      fun _ _ hnever => hnever.elim)
    · exact hmono hone (hread.trans (.of_spent hread.rows hpt.2 hpt.1))
    rintro ⟨ended, hres⟩ world' ⟨hsame, hspent, hctd'⟩
    obtain ⟨hpages', hconv⟩ := processPage_counted ended hres
    dsimp only at hpages' hconv
    have hpage : WorksOn source budget scope (0 + 1) world world' :=
      hread.trans (.of_spent hread.rows hspent hsame)
    have hended : Recordable budget scope world' ended.run := by
      refine ⟨hconv.trans hloop.conversation, ?_, hpage.otherEvents ▸ hctd'⟩
      rw [hpages']
      omega
    cases ended with
    | done result => exact wp_pure ⟨hmono hone hpage, hended⟩
    | more loop' =>
      refine wp_bind (wp_mono (recordScopeProgress_spent hpage.rows hended fun hstd' => ?_)
        (fun _ hpt => hmono hone (hpage.trans hpt)) (fun _ _ h => h)
        fun _ _ herr => hmono hone (hpage.trans herr))
      have hnext := hpage.trans hstd'
      have hpages'' : budget.maxPagesPerScope - loop'.progress.pagesRead = pages := by
        have hcnt : loop'.progress.pagesRead = loop.progress.pagesRead + 1 := hpages'
        omega
      have hle : 0 + 1 + pages ≤ pages + 1 := by omega
      refine wp_mono (ih hnext.rows hpages'' (hended.of_worksOn hstd'))
        (fun _ hpt => hmono hle (hnext.trans hpt)) ?_
        fun _ _ herr => hmono hle (hnext.trans herr)
      rintro result world'' ⟨hworks, hres⟩
      exact ⟨hmono hle (hnext.trans hworks), hres⟩

theorem processScope_spent {run : ScopeRun} (hrows : RowsWithin budget world.rows)
    (hrun : Recordable budget scope world run) :
    wp (processScope store source budget scope run)
      (WorksOn source budget scope (budget.maxPagesPerScope - run.progress.pagesRead) world)
      (fun result world' => Recordable budget scope world' result.1 ∧
        WorksOn source budget scope (budget.maxPagesPerScope - run.progress.pagesRead) world world')
      (fun _ =>
        WorksOn source budget scope (budget.maxPagesPerScope - run.progress.pagesRead) world)
      world := by
  have hctd : Recordable budget scope world
      ⟨{ run.progress with status := .backfilling }, run.totalEvents⟩ :=
    ⟨hrun.conversation, hrun.pages, hrun.counted.counted, hrun.counted.total, hrun.counted.limit⟩
  rw [processScope]
  dsimp only
  split
  · exact wp_pure ⟨hctd.push _, (WorksOn.refl hrows).mono (Nat.zero_le _)⟩
  · exact wp_mono (pageLoop_spent hrows rfl hctd)
      (fun _ hpt => hpt) (fun _ _ hend => hend.symm) fun _ _ herr => herr

/-- The end of a scope leaves its counters. -/
theorem Recordable.endScope {result : ScopeResult} (h : Recordable budget scope world result.1) :
    Recordable budget scope world ⟨(Backfill.endScope result).1, result.1.totalEvents⟩ := by
  obtain ⟨run, ended⟩ := result
  obtain ⟨hconv, hpages, hctd, htotal, hlim⟩ := h
  cases ended with
  | ok exhausted => exact ⟨hconv, hpages, hctd, htotal, hlim⟩
  | error e => cases e <;> exact ⟨hconv, hpages, hctd, htotal, hlim⟩

/-! ## The scopes of a run -/

def rowOf (scope : BackfillScope) (rows : List ScopeProgress) : Option ScopeProgress :=
  rows.find? fun row => scopeKeyOf row.conversation = scope.scopeKey

def pagesOf (scope : BackfillScope) (rows : List ScopeProgress) : ℕ :=
  (rowOf scope rows).elim 0 ScopeProgress.pagesRead

/-- What a run has done since `start`, with the scopes `rest` still to come. -/
structure Bounded (source : HistoryBackfillSource) (budget : BackfillBudget)
    (account : SourceAccountRef) (start : BackfillWorld) (rest : List BackfillScope)
    (world : BackfillWorld) : Prop where
  rows : RowsWithin budget world.rows
  events : ∃ new, world.events = start.events ++ new ∧
    (∀ scope, fetches scope new + pagesOf scope start.rows ≤ budget.maxPagesPerScope) ∧
    (∀ scope ∈ rest, fetches scope new = 0) ∧
    ∀ scope item, .inserting scope item ∈ new →
      scope.account = account ∧ FromSoundPage source budget scope world.events item

theorem fetches_eq_zero {other : BackfillScope} (h : ∀ event ∈ events, event.scope = scope)
    (hoth : other ≠ scope) : fetches other events = 0 := by
  refine List.countP_eq_zero.mpr fun event hev hfetch => hoth ?_
  cases event with
  | fetching asked => exact (of_decide_eq_true hfetch).symm.trans (h _ hev)
  | read _ _ => cases hfetch
  | inserting _ _ => cases hfetch
  | inserted _ _ _ => cases hfetch

theorem Bounded.worksOn {start : BackfillWorld} {rest : List BackfillScope} {pages : ℕ}
    (h : Bounded source budget account start (scope :: rest) world) (hnew : scope ∉ rest)
    (hacc : scope.account = account) (hworks : WorksOn source budget scope pages world world')
    (hpages : pages + pagesOf scope start.rows ≤ budget.maxPagesPerScope) :
    Bounded source budget account start rest world' := by
  obtain ⟨-, new, hevs, hfetc, hrest, hsnd⟩ := h
  obtain ⟨hrows, -, new', hevs', hsc, hfetc', hsnd'⟩ := hworks
  have hgrown : world.events <+: world'.events := ⟨new', hevs'.symm⟩
  have hsum : ∀ other, fetches other (new ++ new') = fetches other new + fetches other new' :=
    fun other => List.countP_append
  refine ⟨hrows, new ++ new', by rw [hevs', hevs, List.append_assoc], fun other => ?_,
    fun other hoth => ?_, fun other item hitem => ?_⟩
  · by_cases hsame : other = scope
    · subst hsame
      have hnone := hrest other List.mem_cons_self
      rw [hsum]
      omega
    · rw [hsum, fetches_eq_zero hsc hsame]
      exact hfetc other
  · rw [hsum, hrest other (List.mem_cons_of_mem _ hoth),
      fetches_eq_zero hsc fun hsame => hnew (hsame ▸ hoth)]
  · rcases List.mem_append.mp hitem with hitem | hitem
    · obtain ⟨hoth, hpage⟩ := hsnd other item hitem
      exact ⟨hoth, hpage.mono hgrown⟩
    · obtain rfl : other = scope := hsc _ hitem
      exact ⟨hacc, hsnd' item hitem⟩

theorem Bounded.stopped {start : BackfillWorld} {rest : List BackfillScope}
    (h : Bounded source budget account start rest world) :
    Bounded source budget account start [] world := by
  obtain ⟨hrows, new, hevs, hfetc, -, hsnd⟩ := h
  exact ⟨hrows, new, hevs, hfetc, fun _ hsc => absurd hsc List.not_mem_nil, hsnd⟩

structure EvidenceWithin (budget : BackfillBudget) (evidence : List ScopeEvidence) : Prop where
  pages : ∀ scope ∈ evidence, scope.pagesRead ≤ budget.maxPagesPerScope
  counted : ∀ scope ∈ evidence, scope.accepted + scope.duplicates ≤ scope.eventsRead
  events : (evidence.map ScopeEvidence.eventsRead).sum ≤ budget.maxEventsPerRun

/-- The variables of the loop over the scopes agree with the rows. -/
structure Agrees (budget : BackfillBudget) (start : BackfillWorld) (rest : List BackfillScope)
    (run : ClaimedRun) (world : BackfillWorld) : Prop where
  keys : (run.progressMap.map fun row => scopeKeyOf row.conversation).Nodup
  found : ∀ scope ∈ rest, rowOf scope run.progressMap = rowOf scope world.rows ∧
    rowOf scope world.rows = rowOf scope start.rows
  rows : (world.rows.map ScopeProgress.eventsRead).sum = run.totalEvents
  evidence : ∀ scope ∈ run.evidence, scope.pagesRead ≤ budget.maxPagesPerScope ∧
    scope.accepted + scope.duplicates ≤ scope.eventsRead
  total : (run.evidence.map ScopeEvidence.eventsRead).sum +
    (run.progressMap.map ScopeProgress.eventsRead).sum = run.totalEvents

theorem sum_rows (scope : BackfillScope)
    (hkeys : (rows.map fun row => scopeKeyOf row.conversation).Nodup) :
    (rows.map ScopeProgress.eventsRead).sum = otherEvents scope.scopeKey rows +
      (rowOf scope rows).elim 0 ScopeProgress.eventsRead :=
  sum_eq_others_add ScopeProgress.eventsRead hkeys scope.scopeKey

theorem sum_upsert {run : ScopeRun} (h : Recordable budget scope world run) :
    ((world.upsert run.progress).rows.map ScopeProgress.eventsRead).sum = run.totalEvents := by
  have hkey : scopeKeyOf run.progress.conversation = scope.scopeKey :=
    congrArg scopeKeyOf h.conversation
  rw [BackfillWorld.upsert, List.map_append, List.sum_append, List.map_singleton,
    List.sum_singleton, hkey]
  exact h.counted.total

theorem mem_of_rowOf {row : ScopeProgress} (h : rowOf scope rows = some row) :
    row ∈ rows ∧ row.conversation = scope.conversation := by
  have hkey := List.find?_some h
  rw [decide_eq_true_eq] at hkey
  exact ⟨List.mem_of_find?_eq_some h, scopeKeyOf_injective hkey⟩

namespace Agrees

variable {start : BackfillWorld} {rest : List BackfillScope} {run : ClaimedRun}

theorem recordable (h : Agrees budget start (scope :: rest) run world)
    (hrows : RowsWithin budget world.rows) :
    Recordable budget scope world
      ⟨(rowOf scope run.progressMap).getD (freshProgress scope), run.totalEvents⟩ := by
  have hsum := sum_rows scope hrows.keys
  have hlim : run.totalEvents ≤ budget.maxEventsPerRun := h.rows ▸ hrows.events
  rw [h.rows, ← (h.found scope List.mem_cons_self).1] at hsum
  cases hfnd : rowOf scope run.progressMap with
  | none =>
    rw [hfnd] at hsum
    exact ⟨rfl, Nat.zero_le _, Nat.le_refl _, hsum.symm, hlim⟩
  | some row =>
    rw [hfnd] at hsum
    obtain ⟨hmem, hconv⟩ :=
      mem_of_rowOf ((h.found scope List.mem_cons_self).1.symm.trans hfnd)
    exact ⟨hconv, hrows.pages row hmem, hrows.counted row hmem, hsum.symm, hlim⟩

theorem pagesRead (h : Agrees budget start (scope :: rest) run world) :
    ((rowOf scope run.progressMap).getD (freshProgress scope)).pagesRead =
      pagesOf scope start.rows := by
  obtain ⟨hrun, hsta⟩ := h.found scope List.mem_cons_self
  rw [pagesOf, ← hsta, ← hrun]
  cases rowOf scope run.progressMap <;> rfl

/-- A scope has ended, and its row is as its evidence says. -/
theorem next (h : Agrees budget start (scope :: rest) run world)
    (hrows : RowsWithin budget world.rows)
    (hnew : scope.scopeKey ∉ rest.map BackfillScope.scopeKey) {progress : ScopeProgress}
    {total : ℕ} (hprog : Recordable budget scope world ⟨progress, total⟩)
    (hothers : otherRows scope.scopeKey world'.rows = otherRows scope.scopeKey world.rows)
    (hsum : (world'.rows.map ScopeProgress.eventsRead).sum = total) (exhausted : Bool) :
    Agrees budget start rest
      ⟨otherRows scope.scopeKey run.progressMap, total, exhausted,
        run.evidence ++ [progressToEvidence progress]⟩ world' := by
  have hfind : ∀ other ∈ rest, ∀ rows, rowOf other (otherRows scope.scopeKey rows) =
      rowOf other rows := fun other hoth rows =>
    find?_others fun hsame => hnew (List.mem_map.mpr ⟨other, hoth, hsame⟩)
  refine ⟨h.keys.sublist (List.filter_sublist.map _), fun other hoth => ?_, hsum, ?_, ?_⟩
  · obtain ⟨hrun, hsta⟩ := h.found other (List.mem_cons_of_mem _ hoth)
    have hsame : rowOf other world'.rows = rowOf other world.rows := by
      rw [← hfind other hoth, hothers, hfind other hoth]
    exact ⟨(hfind other hoth _).trans (hrun.trans hsame.symm), hsame.trans hsta⟩
  · exact List.forall_mem_append.mpr ⟨h.evidence, List.forall_mem_singleton.mpr
      ⟨hprog.pages, hprog.counted.counted⟩⟩
  · have hmap := sum_rows scope h.keys
    have hwd := sum_rows scope hrows.keys
    rw [h.rows, ← (h.found scope List.mem_cons_self).1] at hwd
    have htotal := h.total
    have hlast : otherEvents scope.scopeKey world.rows + progress.eventsRead = total :=
      hprog.counted.total
    have hrest : ((otherRows scope.scopeKey run.progressMap).map ScopeProgress.eventsRead).sum =
      otherEvents scope.scopeKey run.progressMap := rfl
    rw [List.map_append, List.sum_append, List.map_singleton, List.sum_singleton, hrest]
    show _ + progress.eventsRead + _ = total
    omega

end Agrees

theorem processScopes_bounded {start : BackfillWorld} {rest : List BackfillScope}
    {run : ClaimedRun} (hnd : (rest.map BackfillScope.scopeKey).Nodup)
    (hacc : ∀ scope ∈ rest, scope.account = account)
    (h : Bounded source budget account start rest world)
    (hrun : Agrees budget start rest run world) :
    wp (processScopes store source budget rest run) (Bounded source budget account start [])
      (fun run' world' => Bounded source budget account start [] world' ∧
        EvidenceWithin budget run'.evidence)
      (fun _ => Bounded source budget account start []) world := by
  induction rest generalizing run world with
  | nil =>
    have hlim : run.totalEvents ≤ budget.maxEventsPerRun := hrun.rows ▸ h.rows.events
    have hevs : (run.evidence.map ScopeEvidence.eventsRead).sum ≤ budget.maxEventsPerRun :=
      (Nat.le_add_right _ _).trans (hrun.total.trans_le hlim)
    exact wp_pure ⟨h, fun scope hsc => (hrun.evidence scope hsc).1,
      fun scope hsc => (hrun.evidence scope hsc).2, hevs⟩
  | cons scope rest ih =>
    rw [List.map_cons, List.nodup_cons] at hnd
    obtain ⟨hnew, hnd⟩ := hnd
    obtain ⟨hsc, hacc⟩ := List.forall_mem_cons.mp hacc
    have hnotMem : scope ∉ rest := fun hmem => hnew (List.mem_map_of_mem hmem)
    have hrec := hrun.recordable h.rows
    have hpages := hrun.pagesRead
    have hle : pagesOf scope start.rows ≤ budget.maxPagesPerScope := hpages ▸ hrec.pages
    rw [processScopes]
    dsimp only
    split
    · have hbounded : Bounded source budget account start rest world :=
        h.worksOn hnotMem hsc (.refl h.rows) (by omega)
      exact ih hnd hacc hbounded
        (hrun.next h.rows hnew hrec rfl hrun.rows run.budgetExhausted)
    · have hworks : ∀ {point}, WorksOn source budget scope (budget.maxPagesPerScope -
          ((rowOf scope run.progressMap).getD (freshProgress scope)).pagesRead) world point →
          Bounded source budget account start rest point := fun hpt =>
        h.worksOn hnotMem hsc hpt (by rw [hpages]; omega)
      refine wp_bind (wp_mono (processScope_spent h.rows hrec)
        (fun _ hpt => (hworks hpt).stopped) ?_ fun _ _ herr => (hworks herr).stopped)
      rintro result world' ⟨hres, hpart⟩
      have hended := hres.endScope
      refine wp_bind (wp_mono (recordScopeProgress_spent hpart.rows hended fun hstd => ?_)
        (fun _ hpt => (hworks (hpart.trans hpt)).stopped) (fun _ _ hnext => hnext)
        fun _ _ herr => (hworks (hpart.trans herr)).stopped)
      have hwhole := hpart.trans hstd
      have hprog : Recordable budget scope world
          ⟨(endScope result).1, result.1.totalEvents⟩ :=
        ⟨hended.conversation, hended.pages, hpart.otherEvents ▸ hended.counted⟩
      exact ih hnd hacc (hworks hwhole)
        (hrun.next h.rows hnew hprog hwhole.others (sum_upsert hended) _)

/-! ## A run -/

theorem finalize_bounded {start : BackfillWorld} {evidence : BackfillEvidence}
    (h : Bounded source budget account start [] world)
    (hevi : EvidenceWithin budget evidence.scopes) :
    wp (finalize store evidence) (Bounded source budget account start [])
      (fun outcome world' => Bounded source budget account start [] world' ∧
        EvidenceWithin budget outcome.evidence.scopes)
      (fun _ => Bounded source budget account start []) world := by
  refine wp_bind (wp_ofExcept (fun _ _ => ?_) fun _ _ => h)
  exact wp_bind (check_wp (fun _ => wp_pure ⟨h, hevi⟩) fun _ => h)

/-- Nothing saturates in the sum of the events that were read before. -/
theorem consumedEvents_eq (h : RowsWithin budget rows) :
    consumedEvents rows = (rows.map ScopeProgress.eventsRead).sum := by
  have hfold : ∀ (rows : List ScopeProgress) (total : ℕ),
      total + (rows.map ScopeProgress.eventsRead).sum ≤ 2 ^ 32 - 1 →
      rows.foldl (fun total progress => saturatingAdd total progress.eventsRead) total =
        total + (rows.map ScopeProgress.eventsRead).sum := by
    intro rows
    induction rows with
    | nil => exact fun _ _ => rfl
    | cons row rows ih =>
      intro total hle
      rw [List.map_cons, List.sum_cons] at hle ⊢
      have hadd : saturatingAdd total row.eventsRead = total + row.eventsRead :=
        min_eq_left (by omega)
      rw [List.foldl_cons, hadd, ih _ (by omega), Nat.add_assoc]
  have hevs := h.events
  have hmax := budget.maxEvents_le
  rw [consumedEvents, hfold rows 0 (by omega), Nat.zero_add]

theorem Bounded.begin {start : BackfillWorld} {rest : List BackfillScope}
    (h : RowsWithin budget start.rows) : Bounded source budget account start rest start := by
  have hpages : ∀ scope, pagesOf scope start.rows ≤ budget.maxPagesPerScope := by
    intro scope
    rw [pagesOf]
    cases hfnd : rowOf scope start.rows with
    | none => exact Nat.zero_le _
    | some row => exact h.pages row (mem_of_rowOf hfnd).1
  exact ⟨h, [], (List.append_nil _).symm, fun scope => (Nat.zero_add _).trans_le (hpages scope),
    fun _ _ => rfl, fun _ _ hitem => absurd hitem List.not_mem_nil⟩

theorem processClaimed_bounded {start : BackfillWorld}
    (hkn : ∀ world known, store.knownScopes world = .ok known →
      (known.map KnownScope.conversation).Nodup)
    (hsta : RowsWithin budget start.rows) :
    wp (processClaimed store source budget account) (Bounded source budget account start [])
      (fun outcome world' => Bounded source budget account start [] world' ∧
        EvidenceWithin budget outcome.evidence.scopes)
      (fun _ => Bounded source budget account start []) start := by
  have hbegin : Bounded source budget account start [] start := .begin hsta
  refine wp_get_bind (wp_bind (wp_ofExcept (fun known hans => ?_) fun _ _ => hbegin))
  have hdist : (known.map KnownScope.conversation).Nodup := by
    cases hscs : store.knownScopes start with
    | error e =>
      rw [hscs] at hans
      cases hans
    | ok answered =>
      rw [hscs] at hans
      cases hans
      exact hkn start known hscs
  refine wp_bind (check_wp (fun _ => wp_get_bind ?_) fun _ => hbegin)
  split
  · exact finalize_bounded hbegin ⟨fun _ h => absurd h List.not_mem_nil,
      fun _ h => absurd h List.not_mem_nil, Nat.zero_le _⟩
  · have hnd : ((known.map (scopeOf account)).map BackfillScope.scopeKey).Nodup := by
      have hkeys : (known.map (scopeOf account)).map BackfillScope.scopeKey =
          (known.map KnownScope.conversation).map scopeKeyOf := by
        rw [List.map_map, List.map_map]
        rfl
      rw [hkeys]
      exact hdist.map scopeKeyOf_injective
    have hacc : ∀ scope ∈ known.map (scopeOf account), scope.account = account := by
      intro scope hsc
      obtain ⟨first, -, rfl⟩ := List.mem_map.mp hsc
      rfl
    refine wp_bind (wp_mono (processScopes_bounded hnd hacc (.begin hsta)
      ⟨hsta.keys, fun _ _ => ⟨rfl, rfl⟩, (consumedEvents_eq hsta).symm,
        fun _ h => absurd h List.not_mem_nil, ?_⟩) (fun _ hpt => hpt)
      (fun _ _ hend => finalize_bounded hend.1 hend.2) fun _ _ herr => herr)
    exact (Nat.zero_add _).trans (consumedEvents_eq hsta).symm

/-- A message that a run of the account passes to the store. -/
structure Passed (source : HistoryBackfillSource) (budget : BackfillBudget)
    (account : SourceAccountRef) (scope : BackfillScope) (events : List BackfillEvent)
    (item : BackfillHistoryItem) : Prop where
  anchor : item.envelope.source.messageId = item.anchor.messageId
  account : item.envelope.source.accountRef = account ∧ scope.account = account
  conversation : item.envelope.conversation = scope.conversation
  page : FromSoundPage source budget scope events item

/-- What holds wherever a run that began in `start` is stopped. -/
structure WithinBudget (source : HistoryBackfillSource) (budget : BackfillBudget)
    (account : SourceAccountRef) (start world : BackfillWorld) : Prop where
  rows : RowsWithin budget world.rows
  counters : ∀ row ∈ world.rows, row.pagesRead < 2 ^ 32 ∧ row.eventsRead < 2 ^ 32 ∧
    row.accepted < 2 ^ 32 ∧ row.duplicates < 2 ^ 32
  events : ∃ new, world.events = start.events ++ new ∧
    (∀ scope, fetches scope new ≤ budget.maxPagesPerScope - pagesOf scope start.rows) ∧
    ∀ scope item, .inserting scope item ∈ new → Passed source budget account scope world.events item

theorem FromSoundPage.passed (h : FromSoundPage source budget scope events item)
    (hacc : scope.account = account) : Passed source budget account scope events item := by
  obtain ⟨before, cursor, page, chain, hread, hfet, hsnd, hitem⟩ := h
  obtain ⟨hanchor, hsc⟩ := (items_of_validatePage hsnd).2 item hitem
  obtain ⟨hitemAccount, hconv⟩ := scope_of_itemOutOfScope hsc
  exact ⟨messageId_of_itemAnchorBroken hanchor, ⟨hitemAccount.trans hacc, hacc⟩,
    hconv, before, cursor, page, chain, hread, hfet, hsnd, hitem⟩

theorem RowsWithin.counters (h : RowsWithin budget rows) :
    ∀ row ∈ rows, row.pagesRead < 2 ^ 32 ∧ row.eventsRead < 2 ^ 32 ∧ row.accepted < 2 ^ 32 ∧
      row.duplicates < 2 ^ 32 := by
  intro row hrow
  have hpages := h.pages row hrow
  have hctd := h.counted row hrow
  have hevs := h.events
  rw [sum_eq_others_add ScopeProgress.eventsRead h.keys (scopeKeyOf row.conversation),
    find?_key h.keys hrow, Option.elim_some] at hevs
  have hmaxPages := budget.maxPages_le
  have hmaxEvents := budget.maxEvents_le
  omega

/-- A run stays within its budget, whatever the source returns and the store answers. -/
theorem backfill_bounded {start : BackfillWorld}
    (hknown : ∀ world known, store.knownScopes world = .ok known →
      (known.map KnownScope.conversation).Nodup)
    (hstart : RowsWithin budget start.rows) :
    (∀ world, Reaches (processClaimed store source budget account) start world →
      WithinBudget source budget account start world) ∧
    ∀ outcome, (processClaimed store source budget account start).result = .ok outcome →
      EvidenceWithin budget outcome.evidence.scopes := by
  have hrun : wp (processClaimed store source budget account) _ _ _ start :=
    processClaimed_bounded hknown hstart
  refine ⟨fun world hrch => ?_, fun outcome hout => (wp_ok hrun hout).2⟩
  have hwd : Bounded source budget account start [] world :=
    wp_reaches hrun (.begin hstart) (fun _ _ hend => hend.1) (fun _ _ herr => herr) hrch
  obtain ⟨hrows, new, hevs, hfetc, -, hsnd⟩ := hwd
  refine ⟨hrows, hrows.counters, new, hevs, fun scope => ?_, fun scope item hitem => ?_⟩
  · exact Nat.le_sub_of_add_le (hfetc scope)
  · obtain ⟨hsc, hpage⟩ := hsnd scope item hitem
    exact hpage.passed hsc

/-! ## A source that never stops -/

/-- Every page leads on to another message. -/
def endlessSource : HistoryBackfillSource where
  arrivals _ _ := []
  fetchPage _ scope cursor _ :=
    let next := cursor.elim "m" fun current => current.anchor.messageId ++ "m"
    let newest := cursor.elim [] fun current =>
      [scriptedItem current.anchor.messageId current.anchor.messageSeq]
    .ok ⟨newest ++ [scriptedItem next next], .next ⟨scope.account, ⟨next, next⟩⟩⟩
  historyStartEvidenceProven := true
  pageOrderEvidenceProven := true
  accountConversationSetProven := false

def endlessRun : BackfillIo BackfillOutcome :=
  processClaimed (memoryStore (scriptedKnown ⟨"b", "1"⟩) []) endlessSource scriptedBudget
    scriptedAccount

theorem endless_bounded :
    (∀ world, Reaches endlessRun (scriptedStart []) world →
      WithinBudget endlessSource scriptedBudget scriptedAccount (scriptedStart []) world) ∧
    ∀ outcome, (endlessRun (scriptedStart [])).result = .ok outcome →
      EvidenceWithin scriptedBudget outcome.evidence.scopes := by
  have hrows : RowsWithin scriptedBudget (scriptedStart []).rows :=
    ⟨List.nodup_nil, fun _ hrow => absurd hrow List.not_mem_nil,
      fun _ hrow => absurd hrow List.not_mem_nil, Nat.zero_le _⟩
  refine backfill_bounded (fun world known hans => ?_) hrows
  cases hans
  decide

-- It is asked for each of the ten pages.
example : fetches (scriptedScope ⟨"b", "1"⟩) (endlessRun (scriptedStart [])).state.events = 10 := by
  decide +kernel

end ServerRS.Backfill

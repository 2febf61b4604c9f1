import ServerRS.Backfill.ScopeInvariant
import ServerRS.Lib.Reachable

/-!
# A complete scope has no missing messages

Every call of a run keeps what `ScopeKept` says of each scope, wherever the process is
stopped; so a row that says that its scope is complete is right, over any number of
processes that work on the run (`complete_scope_covered`).
-/

namespace ServerRS.Backfill

open Lib Stepwise

variable {store : BackfillStore} {source : HistoryBackfillSource} {budget : BackfillBudget}
  {scopes : List BackfillScope} {scope : BackfillScope} {world : BackfillWorld}

def RunKept (budget : BackfillBudget) (scopes : List BackfillScope) (world : BackfillWorld) : Prop :=
  ∀ scope ∈ scopes, ScopeKept budget scope world

namespace RunKept

variable {item : BackfillHistoryItem}

section

variable (h : RunKept budget scopes world)
include h

theorem inserting (hread : reads scope world.events ≠ [])
    (hsafe : ∀ newer boundary older, world.available scope = newer ++ boundary :: older →
      atBoundary scope boundary = true → tooOld budget boundary = false → item ∉ older) :
    RunKept budget scopes (world.add (.inserting scope item)) := by
  intro other hoth
  refine (h other hoth).add ?_
  rintro rfl
  exact ⟨hread, hsafe⟩

theorem inserted {outcome : IngestMessageOutcome} :
    RunKept budget scopes (world.add (.inserted scope item outcome)) :=
  fun other hoth => (h other hoth).add trivial

theorem fetching :
    RunKept budget scopes (world.add (.fetching scope)) :=
  fun other hoth => (h other hoth).add trivial

theorem read :
    RunKept budget scopes (world.add (.read scope (world.available scope))) := by
  intro other hoth
  refine (h other hoth).add ?_
  rintro rfl
  rfl

theorem arrive (hsrc : ServesLists budget source) :
    RunKept budget scopes (world.arrive scope (source.arrivals world scope)) := by
  intro other hoth
  have hkept := h other hoth
  by_cases heq : other = scope
  · subst heq
    exact hkept.arrive (if_pos rfl) (hsrc.distinct world other hkept.distinct)
      (hsrc.newer world other)
  · exact hkept.arrive (if_neg heq : _ = [] ++ world.available other) hkept.distinct
      fun _ hitem => absurd hitem List.not_mem_nil

theorem upsert {progress : ScopeProgress}
    (hsame : ∀ other ∈ scopes, other.conversation = scope.conversation → other = scope)
    (hrow : RowKept budget scope world progress) (hconv : progress.conversation = scope.conversation) :
    RunKept budget scopes (world.upsert progress) := by
  intro other hoth
  refine (h other hoth).upsert fun heq => ?_
  rw [hsame other hoth (heq.symm.trans hconv)]
  exact hrow

end

end RunKept

/-! ## The items of a page -/

theorem stopAtBoundary_ingested (run : PageRun) (boundary : Bool) (outcome : IngestMessageOutcome) :
    (run.ingested boundary outcome).stopAtBoundary = (run.stopAtBoundary || boundary) := by
  cases outcome <;> cases boundary <;> simp [PageRun.ingested]

theorem budgetExhausted_ingested (run : PageRun) (boundary : Bool) (outcome : IngestMessageOutcome) :
    (run.ingested boundary outcome).budgetExhausted = run.budgetExhausted := by
  cases outcome <;> cases boundary <;> rfl

/-- How the loop over the items ended. -/
inductive ItemsEnd (budget : BackfillBudget) (scope : BackfillScope) (items : List BackfillHistoryItem)
    (run : PageRun) (world : BackfillWorld) : Prop where
  | cutoff (hcutof : run.configuredCutoffReached = true)
  | exhausted (hexh : run.budgetExhausted = true) (hanom : run.progress.anomalies ≠ [])
  | boundary (hstop : run.stopAtBoundary = true) (done boundary rest)
      (hspl : items = done ++ boundary :: rest) (hbd : atBoundary scope boundary = true)
      (hrec : tooOld budget boundary = false)
      (hdone : ∀ item ∈ done, InsertedOk scope world item)
  | whole (hgoes : run.stopAtBoundary = false ∧ run.budgetExhausted = false)
      (hrch : run.progress.reachedBoundary = true → run.progress.anomalies ≠ [])
      (hdone : ∀ item ∈ items, atBoundary scope item = false ∧ InsertedOk scope world item)

/-- What the loop over the items keeps. -/
structure ItemsKept (budget : BackfillBudget) (scopes : List BackfillScope) (scope : BackfillScope)
    (run : PageRun) (world : BackfillWorld) (run' : PageRun) (world' : BackfillWorld) : Prop where
  kept : RunKept budget scopes world'
  available : world'.available = world.available
  rows : world'.rows = world.rows
  first : firstRead scope world' = firstRead scope world
  insertedOk : ∀ item, InsertedOk scope world item → InsertedOk scope world' item
  conversation : run'.progress.conversation = run.progress.conversation
  lastCursor : run'.progress.lastCursor = run.progress.lastCursor
  pagesRead : run'.progress.pagesRead = run.progress.pagesRead
  cutoff : run.configuredCutoffReached = true → run'.configuredCutoffReached = true

variable {run run' : PageRun} {world' world'' : BackfillWorld} {items : List BackfillHistoryItem}
  {result : ScopeResult} {page : BackfillPage} {progress : ScopeProgress}
  {account : SourceAccountRef} {known : List KnownScope}

theorem ItemsKept.trans {run'' : PageRun} (h : ItemsKept budget scopes scope run world run' world')
    (h' : ItemsKept budget scopes scope run' world' run'' world'') :
    ItemsKept budget scopes scope run world run'' world'' :=
  ⟨h'.kept, h'.available.trans h.available, h'.rows.trans h.rows, h'.first.trans h.first,
    fun item hitem => h'.insertedOk item (h.insertedOk item hitem),
    h'.conversation.trans h.conversation, h'.lastCursor.trans h.lastCursor,
    h'.pagesRead.trans h.pagesRead,
    fun hcutof => h'.cutoff (h.cutoff hcutof)⟩

/-- An item counts, and its outcome is noted. -/
theorem ItemsKept.item {run : PageRun} (boundary : Bool) (outcome : IngestMessageOutcome)
    (anchor : BackfillAnchor) {item : BackfillHistoryItem}
    (hkept : RunKept budget scopes ((world.add (.inserting scope item)).add (.inserted scope item outcome))) :
    ItemsKept budget scopes scope run world ((run.countEvent.ingested boundary outcome).chain anchor)
      ((world.add (.inserting scope item)).add (.inserted scope item outcome)) := by
  have hreads : reads scope ((world.add (.inserting scope item)).add
      (.inserted scope item outcome)).events = reads scope world.events := by
    rw [reads_add_of_other rfl, reads_add_of_other rfl]
  refine ⟨hkept, rfl, rfl, by rw [firstRead, hreads, firstRead], fun _ hitem => hitem.add.add, ?_,
      ?_, ?_, ?_⟩
  all_goals cases outcome <;> cases boundary <;> first | rfl | exact id

theorem ItemsEnd.cons {item : BackfillHistoryItem} (h : ItemsEnd budget scope items run world)
    (hnot : atBoundary scope item = false) (hitem : InsertedOk scope world item) :
    ItemsEnd budget scope (item :: items) run world := by
  cases h with
  | cutoff hcutof => exact .cutoff hcutof
  | exhausted hexh hanom => exact .exhausted hexh hanom
  | boundary hstop done boundary rest hspl hbd hrec hdone =>
    refine .boundary hstop (item :: done) boundary rest (by rw [hspl]; rfl) hbd hrec ?_
    exact List.forall_mem_cons.mpr ⟨hitem, hdone⟩
  | whole hgoes hrch hdone =>
    exact .whole hgoes hrch (List.forall_mem_cons.mpr ⟨⟨hnot, hitem⟩, hdone⟩)

/-- The loop over the items of a page that the source has served. -/
theorem ingestItems_wp {before items after : List BackfillHistoryItem} {run : PageRun}
    (hord : source.pageOrderEvidenceProven = true) (hkept : RunKept budget scopes world)
    (hspl : world.available scope = before ++ items ++ after)
    (hdist : DistinctAnchors (world.available scope)) (hread : reads scope world.events ≠ [])
    (hbef : ∀ item ∈ before, atBoundary scope item = true → tooOld budget item = true)
    (hgoes : run.stopAtBoundary = false ∧ run.budgetExhausted = false)
    (hrch : run.progress.reachedBoundary = true → run.progress.anomalies ≠ []) :
    wp (ingestItems store source budget scope items run) (RunKept budget scopes)
      (fun result world' => ItemsKept budget scopes scope run world result.1 world' ∧
        (result.2 = none → ItemsEnd budget scope items result.1 world'))
      (fun _ _ => False) world := by
  induction items generalizing before run world with
  | nil =>
    exact wp_pure ⟨⟨hkept, rfl, rfl, rfl, fun _ hitem => hitem, rfl, rfl, rfl, id⟩, fun _ =>
      .whole hgoes hrch fun _ hitem => absurd hitem List.not_mem_nil⟩
  | cons item rest ih =>
    rw [ingestItems]
    split
    · exact wp_pure ⟨⟨hkept, rfl, rfl, rfl, fun _ hitem => hitem, rfl, rfl, rfl, id⟩, fun _ =>
        .exhausted rfl (by simp [ScopeProgress.push])⟩
    have hspl' : world.available scope = (before ++ [item]) ++ rest ++ after := by
      rw [hspl]
      simp
    split
    · -- too old: the item is skipped
      next hold =>
      have hskip : wp (ingestItems store source budget scope rest
          { run.countEvent with configuredCutoffReached := true }) _ _ _ world :=
        ih hkept hspl' hdist hread (fun other hoth hbd => by
          rcases List.mem_append.mp hoth with hoth | hoth
          · exact hbef other hoth hbd
          · obtain rfl := List.mem_singleton.mp hoth
            exact hold) hgoes hrch
      refine wp_mono hskip (fun _ hpt => hpt) (fun result world' hres => ?_)
        fun _ _ hnever => hnever
      exact ⟨⟨hres.1.kept, hres.1.available, hres.1.rows, hres.1.first, hres.1.insertedOk,
        hres.1.conversation, hres.1.lastCursor, hres.1.pagesRead, fun _ => hres.1.cutoff rfl⟩,
        fun _ => .cutoff (hres.1.cutoff rfl)⟩
    · -- everything newer is no boundary, or too old
      next hrec =>
      rw [Bool.not_eq_true] at hrec
      have htry : RunKept budget scopes (world.add (.inserting scope item)) :=
        hkept.inserting hread fun newer boundary older hboundarySplit hbd hboundaryRecent hitem => by
          have hmem := mem_before_of_mem_after hdist
            (hspl.trans (by simp : _ = before ++ item :: (rest ++ after))) hboundarySplit hitem
          rw [hbef boundary hmem hbd] at hboundaryRecent
          cases hboundaryRecent
      refine wp_bind (insertMessageIfAbsent_wp htry (fun e => wp_pure ?_) fun outcome _ =>
        ⟨htry.inserted, ?_⟩)
      · exact ⟨⟨htry, rfl, rfl, by rw [firstRead, reads_add_of_other rfl, firstRead],
          fun _ hitem => hitem.add, rfl, rfl, rfl, id⟩, fun hnone => by cases hnone⟩
      · dsimp only
        obtain ⟨run', hrun'⟩ : ∃ run', run' =
            (run.countEvent.ingested (isBoundary source scope item) outcome).chain item.anchor := ⟨_, rfl⟩
        have hitem : ItemsKept budget scopes scope run world run'
            ((world.add (.inserting scope item)).add (.inserted scope item outcome)) := by
          rw [hrun']
          exact .item _ outcome _ htry.inserted
        have hbd : isBoundary source scope item = atBoundary scope item := by
          rw [isBoundary, hord, Bool.true_and]
        have hends : run'.stopAtBoundary = atBoundary scope item ∧ run'.budgetExhausted = false := by
          rw [hrun', hbd]
          exact ⟨(stopAtBoundary_ingested ..).trans (by rw [PageRun.countEvent, hgoes.1, Bool.false_or]),
            (budgetExhausted_ingested ..).trans hgoes.2⟩
        rw [← hrun', hends.1, hends.2, Bool.or_false]
        split
        · next hat =>
          exact wp_pure ⟨hitem, fun _ => .boundary (hends.1.trans hat) [] item rest rfl hat hrec
            fun _ hdone => absurd hdone List.not_mem_nil⟩
        · next hnot =>
          rw [Bool.not_eq_true] at hnot
          have hgoes' : run'.stopAtBoundary = false ∧ run'.budgetExhausted = false :=
            ⟨hends.1.trans hnot, hends.2⟩
          have hrch' : run'.progress.reachedBoundary = true → run'.progress.anomalies ≠ [] := by
            rw [hrun', hbd, hnot]
            cases outcome <;> exact hrch
          have hread' : reads scope ((world.add (.inserting scope item)).add
              (.inserted scope item outcome)).events ≠ [] := by
            rw [reads_add_of_other rfl, reads_add_of_other rfl]
            exact hread
          have hrest := ih hitem.kept hspl' hdist hread' (fun other hoth hat => by
            rcases List.mem_append.mp hoth with hoth | hoth
            · exact hbef other hoth hat
            · obtain rfl := List.mem_singleton.mp hoth
              rw [hnot] at hat
              cases hat) hgoes' hrch'
          refine wp_mono hrest (fun _ hpt => hpt) (fun result world' hres =>
            ⟨hitem.trans hres.1, fun hnone => (hres.2 hnone).cons hnot
              (hres.1.insertedOk item ⟨outcome, List.mem_append_right _ (List.mem_singleton_self _)⟩)⟩)
            fun _ _ hnever => hnever

/-! ## A page -/

/-- The loop over the pages goes on from messages that are inserted. -/
structure LoopKept (scope : BackfillScope) (world : BackfillWorld) (loop : ScopeLoop) : Prop where
  progress : ProgressKept scope world loop.progress
  cursor : loop.progress.lastCursor = loop.cursor
  status : loop.progress.status = .backfilling

/-- What the loop over the pages ends with. -/
structure ResultKept (budget : BackfillBudget) (scope : BackfillScope) (world : BackfillWorld)
    (result : ScopeResult) : Prop where
  conversation : result.1.progress.conversation = scope.conversation
  cursor : ∀ current, result.1.progress.lastCursor = some current → CursorAt scope world current
  complete : ∀ exhausted, result.2 = .ok exhausted → result.1.progress.reachedBoundary = true →
    result.1.progress.anomalies = [] → 0 < result.1.progress.pagesRead ∧ Covered budget scope world

def PageEnd.Kept (budget : BackfillBudget) (scope : BackfillScope) (world : BackfillWorld) :
    PageEnd → Prop
  | .done result => ResultKept budget scope world result
  | .more loop => LoopKept scope world loop

/-- A result with an anomaly, or with an error of the source, is never complete. -/
theorem ResultKept.tainted (hprog : result.1.progress.conversation = scope.conversation)
    (hcurs : ∀ current, result.1.progress.lastCursor = some current → CursorAt scope world current)
    (htain : ∀ exhausted, result.2 = .ok exhausted → result.1.progress.reachedBoundary = true →
      result.1.progress.anomalies ≠ []) : ResultKept budget scope world result :=
  ⟨hprog, hcurs, fun exhausted hok hrch hclean =>
    absurd hclean (htain exhausted hok hrch)⟩

theorem AllInserted.of_kept (h : AllInserted scope world items)
    (hkept : ItemsKept budget scopes scope run world run' world') :
    AllInserted scope world' items := by
  intro first hfst item hitem hmem
  rw [hkept.first] at hfst
  exact hkept.insertedOk item (h first hfst item hitem hmem)

theorem CursorAt.of_kept {cursor : BackfillCursor} (h : CursorAt scope world cursor)
    (hkept : ItemsKept budget scopes scope run world run' world') :
    CursorAt scope world' cursor := by
  obtain ⟨passed, last, rest, hspl, hanch, hnone, hread, hall⟩ := h
  refine ⟨passed, last, rest, ?_, hanch, hnone, ?_, hall.of_kept hkept⟩
  · rw [hkept.available, hspl]
  · rw [hkept.first]
    exact hread

/-- A page that is served begins behind messages that are inserted. -/
theorem Serves.before_inserted {cursor : Option BackfillCursor}
    (hserv : Serves (world.available scope) cursor page) (hsnd : SoundPage scope page)
    (hdist : DistinctAnchors (world.available scope))
    (hcurs : ∀ current, cursor = some current → CursorAt scope world current) :
    ∃ before after, world.available scope = before ++ page.items ++ after ∧
      (page.continuation = .provenHistoryStart → after = []) ∧
      (∀ item ∈ before, atBoundary scope item = false) ∧ AllInserted scope world before := by
  obtain ⟨before, after, hspl, hnewest, hhead, hsta⟩ := hserv
  refine ⟨before, after, hspl, hsta, ?_⟩
  cases cursor with
  | none =>
    obtain rfl := hnewest rfl
    exact ⟨fun _ hitem => absurd hitem List.not_mem_nil,
      fun _ _ _ hitem => absurd hitem List.not_mem_nil⟩
  | some current =>
    obtain ⟨passed, last, rest, hpas, hanch, hnone, -, hall⟩ := hcurs current rfl
    -- the first message of the page is the one of the cursor
    obtain ⟨item, items, hitems⟩ := List.exists_cons_of_ne_nil hsnd.items_ne
    have hitem : item.anchor = current.anchor := hhead current rfl item (by rw [hitems]; rfl)
    rw [hitems, List.append_assoc] at hspl
    obtain ⟨rfl, -, -⟩ := split_unique hdist hspl hpas (hitem.trans hanch.symm)
    exact ⟨fun other hoth => hnone other (List.mem_append_left _ hoth),
      fun first hfst other hoth => hall first hfst other (List.mem_append_left _ hoth)⟩

theorem kept_afterItems {before after : List BackfillHistoryItem} (hsnd : SoundPage scope page)
    (hspl : world.available scope = before ++ page.items ++ after)
    (hsta : page.continuation = .provenHistoryStart → after = [])
    (hnone : ∀ item ∈ before, atBoundary scope item = false) (hall : AllInserted scope world before)
    (hread : (firstRead scope world).isSome) (hprog : ProgressKept scope world run.progress)
    (hpages : 0 < run.progress.pagesRead)
    (hkept : ItemsKept budget scopes scope run world run' world')
    (hend : ItemsEnd budget scope page.items run' world') :
    (afterItems source scope page run').Kept budget scope world' := by
  have hconv : run'.progress.conversation = scope.conversation :=
    hkept.conversation.trans hprog.conversation
  have hcurs : ∀ current, run'.progress.lastCursor = some current → CursorAt scope world' current := by
    intro current hcur
    rw [hkept.lastCursor] at hcur
    exact (hprog.cursor current hcur).of_kept hkept
  have hread' : (firstRead scope world').isSome := by rw [hkept.first]; exact hread
  have hpages' : 0 < run'.progress.pagesRead := by rw [hkept.pagesRead]; exact hpages
  have hall' : ∀ items, (∀ item ∈ items, InsertedOk scope world' item) →
      AllInserted scope world' (before ++ items) := by
    intro items hitems first hfst item hitem hmem
    rcases List.mem_append.mp hitem with hitem | hitem
    · exact hall.of_kept hkept first hfst item hitem hmem
    · exact hitems item hitem
  rw [afterItems]
  split
  · exact .tainted hconv hcurs fun _ _ _ => pushUnique_ne_nil _ _
  · next hcutof =>
    cases hend with
    | cutoff hcut => exact absurd hcut hcutof
    | exhausted hexh hanom =>
      rw [if_pos (by rw [hexh, Bool.or_true])]
      exact .tainted hconv hcurs fun _ _ _ => hanom
    | boundary hstop done boundary rest hitems hbd hrec hdone =>
      rw [if_pos (by rw [hstop, Bool.true_or])]
      refine ⟨hconv, hcurs, fun _ _ _ _ => ⟨hpages', hread', ?_⟩⟩
      have hsome : ∃ cursor, scope.boundaryCursor = some cursor := by
        rw [atBoundary, Option.any_eq_true] at hbd
        exact ⟨_, hbd.choose_spec.1⟩
      obtain ⟨cursor, hsome⟩ := hsome
      rw [hsome]
      refine ⟨before ++ done, boundary, rest ++ after, ?_, hbd, hrec, hall' done hdone⟩
      rw [hkept.available, hspl, hitems]
      simp
    | whole hgoes hrch hdone =>
      rw [if_neg (by rw [hgoes.1, hgoes.2]; exact Bool.false_ne_true)]
      have hitems := hall' page.items fun item hitem => (hdone item hitem).2
      split
      · next next hnext =>
        -- the cursor stands at the last message of the page
        have hlast := hsnd.next next hnext
        obtain ⟨last, hlast, hanch⟩ := Option.map_eq_some_iff.mp hlast
        obtain ⟨passed, hpas⟩ := List.getLast?_eq_some_iff.mp hlast
        refine ⟨⟨hconv, fun current hcur => ?_, hrch⟩, rfl, rfl⟩
        obtain rfl := Option.some.inj hcur
        refine ⟨before ++ passed, last, after, ?_, hanch, fun item hitem => ?_, hread', ?_⟩
        · rw [hkept.available, hspl, hpas]
          simp
        · rw [List.append_assoc, ← hpas, List.mem_append] at hitem
          exact hitem.elim (hnone item) fun hitem => (hdone item hitem).1
        · rw [List.append_assoc, ← hpas]
          exact hitems
      · next hcont =>
        dsimp only
        split
        · -- without a boundary everything is covered
          next hunb =>
          refine ⟨?_, fun current hcur => ?_, fun _ _ _ _ => ⟨?_, hread', ?_⟩⟩
          · split <;> exact hconv
          · split at hcur <;> exact nomatch hcur
          · split <;> exact hpages'
          · rw [Option.isNone_iff_eq_none.mp hunb]
            show AllInserted scope world' (world'.available scope)
            rw [hkept.available, hspl, hsta hcont, List.append_nil]
            exact hitems
        · exact .tainted hconv (fun current hcur => nomatch hcur) fun _ _ _ => by
            simp [ScopeProgress.push]
      · exact .tainted hconv (fun current hcur => nomatch hcur) fun _ _ _ => by
          simp [ScopeProgress.push]

theorem processPage_wp {loop : ScopeLoop} (hord : source.pageOrderEvidenceProven = true)
    (hmem : scope ∈ scopes) (hkept : RunKept budget scopes world)
    (hserv : Serves (world.available scope) loop.cursor page)
    (hread : reads scope world.events ≠ []) (hloop : LoopKept scope world loop) :
    wp (processPage store source budget scope loop page) (RunKept budget scopes)
      (fun ended world' => RunKept budget scopes world' ∧ world'.rows = world.rows ∧
        ended.Kept budget scope world')
      (fun _ _ => False) world := by
  have hfst : (firstRead scope world).isSome := List.isSome_head?.mpr hread
  have hdist := (hkept scope hmem).distinct
  rw [processPage, hord]
  dsimp only
  split
  · -- a page with anomalies is not ingested
    next hanom =>
    refine wp_pure ⟨hkept, rfl, ?_⟩
    refine .tainted hloop.progress.conversation hloop.progress.cursor fun _ _ _ hclean => hanom ?_
    rw [List.append_eq_nil_iff, rejectedPage] at hclean
    simp only [List.append_eq_nil_iff] at hclean
    exact hclean.2.1.1.1
  · next hclean =>
    have hsnd : SoundPage scope page := validatePage_eq_nil (not_not.mp hclean)
    split
    · exact wp_pure ⟨hkept, rfl, .tainted hloop.progress.conversation hloop.progress.cursor
        fun _ _ _ => by simp [ScopeProgress.push]⟩
    · have hprog : ProgressKept scope world
          { loop.progress with pagesRead := loop.progress.pagesRead + 1 } :=
        ⟨hloop.progress.conversation, hloop.progress.cursor, hloop.progress.reached⟩
      obtain ⟨before, after, hspl, hsta, hnone, hall⟩ := hserv.before_inserted hsnd hdist
        fun current hcur => hloop.progress.cursor current (hloop.cursor.trans hcur)
      refine wp_bind (wp_mono (ingestItems_wp hord hkept hspl hdist hread
        (fun item hitem hat => absurd ((hnone item hitem).symm.trans hat) Bool.false_ne_true)
        ⟨rfl, rfl⟩ hloop.progress.reached) (fun _ hpt => hpt) ?_ fun _ _ hnever => hnever)
      rintro ⟨run', failure⟩ world' ⟨hitems, hend⟩
      have hcurs : ∀ current, run'.progress.lastCursor = some current →
          CursorAt scope world' current := by
        intro current hcur
        rw [hitems.lastCursor] at hcur
        exact (hprog.cursor current hcur).of_kept hitems
      cases failure with
      | some e =>
        exact wp_pure ⟨hitems.kept, hitems.rows, hitems.conversation.trans hprog.conversation,
          hcurs, fun _ hok => by cases hok⟩
      | none =>
        exact wp_pure ⟨hitems.kept, hitems.rows, kept_afterItems hsnd hspl hsta hnone hall hfst
          hprog (Nat.succ_pos _) hitems (hend rfl)⟩

/-! ## A scope -/

def OthersKept (scope : BackfillScope) (world world' : BackfillWorld) : Prop :=
  ∀ row ∈ world.rows, row.conversation ≠ scope.conversation → row ∈ world'.rows

theorem OthersKept.trans (h : OthersKept scope world world') (h' : OthersKept scope world' world'') :
    OthersKept scope world world'' :=
  fun row hrow hoth => h' row (h row hrow hoth) hoth

theorem OthersKept.of_eq (h : world'.rows = world.rows) : OthersKept scope world world' := by
  intro row hrow _
  rw [h]
  exact hrow

theorem OthersKept.upsert (h : progress.conversation = scope.conversation) :
    OthersKept scope world (world.upsert progress) := by
  intro row hrow hoth
  refine List.mem_append_left _ (List.mem_filter.mpr ⟨hrow, ?_⟩)
  rw [decide_eq_true_eq]
  exact fun hkey => hoth ((scopeKeyOf_injective hkey).trans h)

theorem recordScopeProgress_kept
    (hsame : ∀ other ∈ scopes, other.conversation = scope.conversation → other = scope)
    (hkept : RunKept budget scopes world) (hconv : progress.conversation = scope.conversation)
    (hrow : RowKept budget scope world progress) {Q : Unit → BackfillWorld → Prop}
    (hdone : RunKept budget scopes (world.upsert progress) →
      OthersKept scope world (world.upsert progress) →
      Q () (world.upsert progress)) :
    wp (recordScopeProgress store progress) (RunKept budget scopes) Q
      (fun _ => RunKept budget scopes) world :=
  have hstd := hkept.upsert hsame hrow hconv
  recordScopeProgress_wp hstd (hdone hstd (.upsert hconv)) (fun _ => hkept) fun _ => hstd

theorem pageLoop_wp (hsrc : ServesLists budget source) (hmem : scope ∈ scopes)
    (hsame : ∀ other ∈ scopes, other.conversation = scope.conversation → other = scope)
    {loop : ScopeLoop} (hkept : RunKept budget scopes world) (hloop : LoopKept scope world loop) :
    wp (pageLoop store source budget scope loop) (RunKept budget scopes)
      (fun result world' => RunKept budget scopes world' ∧ OthersKept scope world world' ∧
        ResultKept budget scope world' result)
      (fun _ => RunKept budget scopes) world := by
  -- the pages that the budget leaves
  induction hpages : budget.maxPagesPerScope - loop.progress.pagesRead using Nat.strongRecOn
    generalizing loop world with
  | ind pages ih =>
    have htainted : ResultKept budget scope world (loop.toScopeRun.push .budgetExhausted, .ok true) :=
      .tainted hloop.progress.conversation hloop.progress.cursor
        fun _ _ _ => by simp [ScopeRun.push, ScopeProgress.push]
    rw [pageLoop]
    split
    · exact wp_pure ⟨hkept, .of_eq rfl, htainted⟩
    next hleft =>
    split
    · exact wp_pure ⟨hkept, .of_eq rfl, htainted⟩
    split
    · exact wp_pure ⟨hkept, .of_eq rfl, .tainted hloop.progress.conversation hloop.progress.cursor
        fun _ _ _ => by simp [ScopeRun.push, ScopeProgress.push]⟩
    have hrow : ∀ {loop : ScopeLoop} {world : BackfillWorld}, LoopKept scope world loop →
        RowKept budget scope world loop.progress := fun hloop =>
      ⟨fun hcomp => (by cases hloop.status.symm.trans hcomp), fun _ => hloop.progress⟩
    refine wp_bind (recordScopeProgress_kept hsame hkept hloop.progress.conversation (hrow hloop)
      fun hkept hother => ?_)
    -- messages may arrive before the page is read
    have hfetc : RunKept budget scopes ((world.upsert loop.progress).add (.fetching scope)) :=
      hkept.fetching
    have hsc := hfetc scope hmem
    obtain ⟨asked, hasked⟩ : ∃ asked, asked = (world.upsert loop.progress).add (.fetching scope) :=
      ⟨_, rfl⟩
    rw [← hasked] at hfetc hsc
    obtain ⟨arrived, hwd⟩ : ∃ arrived, arrived = asked.arrive scope
        (source.arrivals asked scope) := ⟨_, rfl⟩
    have harr : RunKept budget scopes arrived := by
      rw [hwd]
      exact hfetc.arrive hsrc
    have hother' : OthersKept scope world arrived := by
      rw [hwd, hasked]
      exact hother
    have hloop' : LoopKept scope arrived loop := by
      rw [hwd]
      have hprog : ProgressKept scope asked loop.progress := by
        rw [hasked]
        exact (hloop.progress.upsert loop.progress).add
      exact ⟨hprog.arrive hsc (if_pos rfl)
        (hsrc.distinct _ scope hsc.distinct) (hsrc.newer _ scope), hloop.cursor, hloop.status⟩
    rw [hasked] at hwd hfetc
    refine wp_bind (fetchPage_wp hwd hfetc harr (fun e _ => wp_pure ?_) fun page hpage =>
      ⟨harr.read, ?_⟩)
    · exact ⟨harr, hother', .tainted hloop'.progress.conversation hloop'.progress.cursor
        fun _ hok => by cases hok⟩
    · have hserv : Serves (arrived.available scope) loop.cursor page := hsrc.serves _ _ _ _ hpage
      have hpageKept : wp (processPage store source budget scope loop page) _ _ _
          (arrived.add (.read scope (arrived.available scope))) :=
        processPage_wp hsrc.ordered hmem harr.read hserv (reads_add_read _)
          ⟨hloop'.progress.add, hloop'.cursor, hloop'.status⟩
      refine wp_bind (wp_mono (wp_attach hpageKept) (fun _ hpt => hpt) ?_
        fun _ _ hnever => hnever.elim)
      rintro ⟨ended, hres⟩ world' ⟨hkept', hrows, hended⟩
      have hless : budget.maxPagesPerScope - ended.run.progress.pagesRead < pages := by
        rw [(processPage_counted ended hres).1]
        dsimp only
        omega
      have hothersPage : OthersKept scope world world' := hother'.trans (.of_eq hrows)
      cases ended with
      | done result => exact wp_pure ⟨hkept', hothersPage, hended⟩
      | more loop =>
        refine wp_bind (recordScopeProgress_kept hsame hkept' hended.progress.conversation (hrow hended)
          fun hkept'' hother'' => ?_)
        refine wp_mono (ih _ hless hkept'' ⟨hended.progress.upsert _, hended.cursor, hended.status⟩ rfl)
          (fun _ hpt => hpt) ?_ fun _ _ herr => herr
        rintro result world'' ⟨hkeptEnd, hothersEnd, hres⟩
        exact ⟨hkeptEnd, (hothersPage.trans hother'').trans hothersEnd, hres⟩

theorem processScope_wp (hsrc : ServesLists budget source) (hmem : scope ∈ scopes)
    (hsame : ∀ other ∈ scopes, other.conversation = scope.conversation → other = scope)
    {run : ScopeRun} (hkept : RunKept budget scopes world)
    (hprog : ProgressKept scope world run.progress) :
    wp (processScope store source budget scope run) (RunKept budget scopes)
      (fun result world' => RunKept budget scopes world' ∧ OthersKept scope world world' ∧
        ResultKept budget scope world' result)
      (fun _ => RunKept budget scopes) world := by
  rw [processScope]
  dsimp only
  split
  · exact wp_pure ⟨hkept, .of_eq rfl, .tainted hprog.conversation hprog.cursor
      fun _ _ _ => by simp [ScopeProgress.push]⟩
  · exact pageLoop_wp hsrc hmem hsame hkept
      ⟨⟨hprog.conversation, hprog.cursor, hprog.reached⟩, rfl, rfl⟩

theorem scopeTerminalStatus_eq_verifiedComplete :
    scopeTerminalStatus progress = .verifiedComplete ↔
      0 < progress.pagesRead ∧ progress.reachedBoundary = true ∧ progress.anomalies = [] := by
  have hcomp : (progressToEvidence progress).isComplete = true ↔
      0 < progress.pagesRead ∧ progress.reachedBoundary = true ∧ progress.anomalies = [] := by
    rw [ScopeEvidence.isComplete, Bool.and_eq_true, Bool.and_eq_true, decide_eq_true_eq,
      List.isEmpty_iff, and_assoc]
    rfl
  rw [← hcomp, scopeTerminalStatus]
  split
  · next h => simp [h]
  · next h =>
    rw [iff_false_right h]
    split <;> exact BackfillScopeStatus.noConfusion

/-- A scope ends as complete only when it is covered. -/
theorem ResultKept.rowKept (h : ResultKept budget scope world result) :
    RowKept budget scope world (endScope result).1 ∧
      (endScope result).1.conversation = scope.conversation := by
  obtain ⟨run, ended⟩ := result
  have htain : ∀ anomaly, RowKept budget scope world
      { run.progress.push anomaly with status := scopeTerminalStatus (run.progress.push anomaly) } := by
    intro anomaly
    have hanom : (run.progress.push anomaly).anomalies ≠ [] := by simp [ScopeProgress.push]
    refine ⟨fun hcomp => ?_, fun _ => ⟨h.conversation, h.cursor, fun _ => hanom⟩⟩
    exact absurd (scopeTerminalStatus_eq_verifiedComplete.mp hcomp).2.2 hanom
  cases ended with
  | ok exhausted =>
    refine ⟨⟨fun hcomp => ?_, fun hstat => ⟨h.conversation, h.cursor, fun hrch hclean => ?_⟩⟩,
      h.conversation⟩
    · obtain ⟨-, hrch, hclean⟩ := scopeTerminalStatus_eq_verifiedComplete.mp hcomp
      exact (h.complete exhausted rfl hrch hclean).2
    · exact hstat (scopeTerminalStatus_eq_verifiedComplete.mpr
        ⟨(h.complete exhausted rfl hrch hclean).1, hrch, hclean⟩)
  | error e => cases e <;> exact ⟨htain _, h.conversation⟩

/-! ## A run -/

/-- The loop over the scopes; the progress of those to come is still in the rows. -/
theorem processScopes_wp (hsrc : ServesLists budget source)
    (hsame : ∀ scope ∈ scopes, ∀ other ∈ scopes, other.conversation = scope.conversation → other = scope)
    {rest : List BackfillScope} {run : ClaimedRun} (hsubset : ∀ scope ∈ rest, scope ∈ scopes)
    (hnd : (rest.map BackfillScope.conversation).Nodup) (hkept : RunKept budget scopes world)
    (hprog : ∀ scope ∈ rest, ∀ row ∈ run.progressMap, row.conversation = scope.conversation →
      row ∈ world.rows) :
    wp (processScopes store source budget rest run) (RunKept budget scopes)
      (fun _ => RunKept budget scopes) (fun _ => RunKept budget scopes) world := by
  induction rest generalizing run world with
  | nil => exact wp_pure hkept
  | cons scope rest ih =>
    rw [List.map_cons, List.nodup_cons] at hnd
    obtain ⟨hnew, hnd⟩ := hnd
    have hmem := hsubset scope List.mem_cons_self
    have hrest : ∀ other ∈ rest, other ∈ scopes := fun other hoth =>
      hsubset other (List.mem_cons_of_mem _ hoth)
    have hprogressRest : ∀ other ∈ rest, ∀ row ∈ (takeProgress scope.scopeKey run.progressMap).2,
        row.conversation = other.conversation → row ∈ world.rows := fun other hoth row hrow heq =>
      hprog other (List.mem_cons_of_mem _ hoth) row (List.mem_of_mem_filter hrow) heq
    have hrow : RowKept budget scope world
        ((takeProgress scope.scopeKey run.progressMap).1.getD (freshProgress scope)) := by
      cases hfnd : (takeProgress scope.scopeKey run.progressMap).1 with
      | none =>
        exact ⟨fun hcomp => (nomatch hcomp), fun _ => ⟨rfl, fun _ hcurs => (nomatch hcurs),
          fun hrch => (nomatch hrch)⟩⟩
      | some row =>
        have hkey := List.find?_some hfnd
        rw [decide_eq_true_eq] at hkey
        have hconv : row.conversation = scope.conversation := scopeKeyOf_injective hkey
        exact (hkept scope hmem).rows row (hprog scope List.mem_cons_self row
          (List.mem_of_find?_eq_some hfnd) hconv) hconv
    rw [processScopes]
    dsimp only
    split
    · exact ih hrest hnd hkept hprogressRest
    · next hstat =>
      refine wp_bind (wp_mono (processScope_wp hsrc hmem (hsame scope hmem) hkept (hrow.kept hstat))
        (fun _ hpt => hpt) ?_ fun _ _ herr => herr)
      rintro result world' ⟨hkept', hother, hres⟩
      obtain ⟨hended, hconv⟩ := hres.rowKept
      refine wp_bind (recordScopeProgress_kept (hsame scope hmem) hkept' hconv hended
        fun hkept'' hother' => ?_)
      refine ih hrest hnd hkept'' fun other hoth row hrow heq => ?_
      refine (hother.trans hother') row (hprogressRest other hoth row hrow heq) fun hsameConversation => ?_
      exact hnew (List.mem_map.mpr ⟨other, hoth, heq.symm.trans hsameConversation⟩)

theorem finalize_wp {evidence : BackfillEvidence} (hkept : RunKept budget scopes world) :
    wp (finalize store evidence) (RunKept budget scopes) (fun _ => RunKept budget scopes)
      (fun _ => RunKept budget scopes) world := by
  refine wp_bind (wp_ofExcept (fun _ _ => ?_) fun _ _ => hkept)
  exact wp_bind (check_wp (fun _ => wp_pure hkept) fun _ => hkept)

theorem processClaimed_wp (hsrc : ServesLists budget source)
    (hnd : (known.map KnownScope.conversation).Nodup)
    (hkn : ∀ world scopes, store.knownScopes world = .ok scopes → scopes = known)
    (hkept : RunKept budget (known.map (scopeOf account)) world) :
    wp (processClaimed store source budget account) (RunKept budget (known.map (scopeOf account)))
      (fun _ => RunKept budget (known.map (scopeOf account)))
      (fun _ => RunKept budget (known.map (scopeOf account))) world := by
  refine wp_get_bind (wp_bind (wp_ofExcept (fun scopes hscs => ?_) fun _ _ => hkept))
  have hscs : scopes = known := by
    cases hans : store.knownScopes world with
    | error e =>
      rw [hans] at hscs
      cases hscs
    | ok answered =>
      rw [hans] at hscs
      cases hscs
      exact hkn world scopes hans
  subst hscs
  refine wp_bind (check_wp (fun _ => wp_get_bind ?_) fun _ => hkept)
  split
  · exact finalize_wp hkept
  · have hsame : ∀ scope ∈ scopes.map (scopeOf account), ∀ other ∈ scopes.map (scopeOf account),
        other.conversation = scope.conversation → other = scope := by
      intro scope hsc other hoth heq
      obtain ⟨first, hfst, rfl⟩ := List.mem_map.mp hsc
      obtain ⟨second, hsec, rfl⟩ := List.mem_map.mp hoth
      rw [List.inj_on_of_nodup_map hnd hsec hfst heq]
    refine wp_bind (wp_mono (processScopes_wp hsrc hsame (fun _ hsc => hsc) ?_ hkept
      fun _ _ _ hrow _ => hrow) (fun _ hpt => hpt) (fun _ _ hkept' => finalize_wp hkept')
      fun _ _ herr => herr)
    rw [List.map_map]
    exact hnd

/-! ## Many processes -/

/-- A process works on the run, and is found in some state of it: it is stopped there, or has
returned. -/
def BackfillStep (budget : BackfillBudget) (account : SourceAccountRef) (known : List KnownScope)
    (world world' : BackfillWorld) : Prop :=
  ∃ store source, (∀ world scopes, store.knownScopes world = .ok scopes → scopes = known) ∧
    ServesLists budget source ∧ Reaches (processClaimed store source budget account) world world'

/-- Nothing has happened in the run. -/
structure FreshRun (known : List KnownScope) (account : SourceAccountRef) (world : BackfillWorld) :
    Prop where
  rows : world.rows = []
  events : world.events = []
  distinct : ∀ scope ∈ known.map (scopeOf account), DistinctAnchors (world.available scope)

/-- What a complete scope promises about the messages of its first read. -/
def NothingMissing (scope : BackfillScope) (world : BackfillWorld) : Prop :=
  ∃ first, firstRead scope world = some first ∧
    match scope.boundaryCursor with
    | some boundary => ∃ newer item older, first = newer ++ item :: older ∧
        item.anchor.messageId = boundary.anchor.messageId ∧
          (∀ message ∈ newer, InsertedOk scope world message) ∧
          ∀ message ∈ older, ¬Tried scope world message
    | none => ∀ message ∈ first, InsertedOk scope world message

theorem FreshRun.runKept (h : FreshRun known account world) :
    RunKept budget (known.map (scopeOf account)) world := by
  obtain ⟨hrows, hevs, hdist⟩ := h
  have hreads : ∀ scope, reads scope world.events = [] := by
    intro scope
    rw [hevs]
    rfl
  have htried : ∀ scope item, ¬Tried scope world item := by
    intro scope item
    rw [Tried, hevs]
    exact List.not_mem_nil
  intro scope hsc
  refine ⟨hdist scope hsc, fun list hlist => ?_, fun _ => htried scope,
    fun _ _ _ _ _ _ item _ => htried scope item, fun row hrow => ?_⟩
  · rw [hreads] at hlist
    exact absurd hlist List.not_mem_nil
  · rw [hrows] at hrow
    exact absurd hrow List.not_mem_nil

/-- The boundary of a covered scope is in its first read. -/
theorem Covered.nothingMissing (h : Covered budget scope world) (hkept : ScopeKept budget scope world) :
    NothingMissing scope world := by
  obtain ⟨hread, h⟩ := h
  obtain ⟨first, hfst⟩ := Option.isSome_iff_exists.mp hread
  obtain ⟨new, hav, hnew⟩ := hkept.grown first (List.mem_of_mem_head? hfst)
  refine ⟨first, hfst, ?_⟩
  cases hbd : scope.boundaryCursor with
  | some boundary =>
    rw [hbd] at h
    obtain ⟨newer, item, older, hspl, hat, hrec, hall⟩ := h
    have hbeyond := hkept.beyond newer item older hspl hat hrec
    have hid : item.anchor.messageId = boundary.anchor.messageId := by
      rw [atBoundary, hbd] at hat
      simpa using hat
    have hnot : item ∉ new := fun hmem => nomatch (hnew item hmem).symm.trans hat
    obtain ⟨between, rfl, hbetw⟩ := split_of_not_mem (hav.symm.trans hspl) hnot
    refine ⟨between, item, older, hbetw, hid, fun message hmsg => ?_, hbeyond⟩
    refine hall first hfst message (List.mem_append_right _ hmsg) ?_
    rw [hbetw]
    exact List.mem_append_left _ hmsg
  | none =>
    rw [hbd] at h
    intro message hmsg
    exact h first hfst message (by rw [hav]; exact List.mem_append_right _ hmsg) hmsg

theorem run_kept {start : BackfillWorld} (hnd : (known.map KnownScope.conversation).Nodup)
    (hsta : FreshRun known account start)
    (hrun : Relation.ReflTransGen (BackfillStep budget account known) start world) :
    RunKept budget (known.map (scopeOf account)) world := by
  refine run_invariant (RunKept budget (known.map (scopeOf account))) ?_ hrun hsta.runKept
  rintro world world' hkept ⟨store, source, hkn, hsrc, hrch⟩
  exact wp_reaches (processClaimed_wp hsrc hnd hkn hkept) hkept (fun _ _ h => h)
    (fun _ _ h => h) hrch

/-- A row that says that its scope is complete is right, over any number of processes that
are stopped anywhere. -/
theorem complete_scope_covered {account : SourceAccountRef} {known : List KnownScope}
    {start : BackfillWorld} (hnodup : (known.map KnownScope.conversation).Nodup)
    (hstart : FreshRun known account start)
    (hrun : Relation.ReflTransGen (BackfillStep budget account known) start world)
    (hscope : scope ∈ known.map (scopeOf account)) {row : ScopeProgress} (hrow : row ∈ world.rows)
    (hconversation : row.conversation = scope.conversation) (hcomplete : row.status = .verifiedComplete) :
    NothingMissing scope world := by
  have hkept := run_kept hnodup hstart hrun scope hscope
  exact ((hkept.rows row hrow hconversation).complete hcomplete).nothingMissing hkept

/-! ## Runs on a list -/

theorem scriptedRun_step (boundary : BackfillAnchor) (available : List BackfillHistoryItem) :
    BackfillStep scriptedBudget scriptedAccount (scriptedKnown boundary) (scriptedStart available)
      (scriptedRun boundary available) :=
  ⟨_, pagedSource, fun _ _ hok => (Except.ok.inj hok).symm, servesLists_pagedSource _, .inr rfl⟩

theorem scriptedStart_fresh {boundary : BackfillAnchor} {available : List BackfillHistoryItem}
    (h : DistinctAnchors available) :
    FreshRun (scriptedKnown boundary) scriptedAccount (scriptedStart available) :=
  ⟨rfl, rfl, fun _ _ => h⟩

theorem complete_scope_covered_twoMessages :
    NothingMissing (scriptedScope ⟨"b", "1"⟩)
      (scriptedRun ⟨"b", "1"⟩ [scriptedItem "x" "2", scriptedItem "b" "1"]) := by
  obtain ⟨row, hrow, hconv, hcomp⟩ : ∃ row ∈
      (scriptedRun ⟨"b", "1"⟩ [scriptedItem "x" "2", scriptedItem "b" "1"]).rows,
      row.conversation = scriptedConversation ∧ row.status = .verifiedComplete := by decide +kernel
  have hnd : ((scriptedKnown ⟨"b", "1"⟩).map KnownScope.conversation).Nodup := by decide
  exact complete_scope_covered hnd (scriptedStart_fresh (by decide)) (.single (scriptedRun_step _ _))
    List.mem_cons_self hrow hconv hcomp

/-- The boundary is looked for by its message id alone: a newer message with this id ends the
scope as complete, and the messages between the two are missed. -/
theorem boundary_matched_by_id : ∃ (available : List BackfillHistoryItem) (world : BackfillWorld),
    FreshRun (scriptedKnown ⟨"b", "1"⟩) scriptedAccount (scriptedStart available) ∧
      BackfillStep scriptedBudget scriptedAccount (scriptedKnown ⟨"b", "1"⟩) (scriptedStart available)
        world ∧
      (∃ row ∈ world.rows, row.conversation = scriptedConversation ∧ row.status = .verifiedComplete) ∧
      ∃ newer boundary, firstRead (scriptedScope ⟨"b", "1"⟩) world = some (newer ++ [boundary]) ∧
        boundary.anchor = ⟨"b", "1"⟩ ∧
          ∃ message ∈ newer, ¬InsertedOk (scriptedScope ⟨"b", "1"⟩) world message := by
  refine ⟨[scriptedItem "b" "3", scriptedItem "x" "2", scriptedItem "b" "1"], _,
    scriptedStart_fresh (by decide), scriptedRun_step _ _, by decide +kernel,
    [scriptedItem "b" "3", scriptedItem "x" "2"], scriptedItem "b" "1", by decide +kernel, rfl,
    scriptedItem "x" "2", by decide, fun hinsd => ?_⟩
  exact absurd hinsd.mem_insertedSources (by decide +kernel)

end ServerRS.Backfill

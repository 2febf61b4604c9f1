import ServerRS.Domain.Backfill
import ServerRS.Lib.Stepwise

/-!
# The backfill use case

Models `process_claimed` of `personal-secretary/src/application/backfill_service.rs` with
`process_scope` and `validate_page`. The store and the history source are parameters; what
the run asked of them is recorded as events, and what the store keeps of the run is the list
of its rows. A process can be stopped between any two calls.
-/

namespace ServerRS.Backfill

open Lib

/-! ## The ports -/

/-- What a run did. A page is `fetching` when the source is asked for it, and `read` when it is
there; with it goes what the source had of the scope. A message is `inserting` when it is passed
to the store, and `inserted` when the answer is there. -/
inductive BackfillEvent where
  | fetching (scope : BackfillScope)
  | read (scope : BackfillScope) (available : List BackfillHistoryItem)
  | inserting (scope : BackfillScope) (item : BackfillHistoryItem)
  | inserted (scope : BackfillScope) (item : BackfillHistoryItem) (outcome : IngestMessageOutcome)

/-- The persisted progress of a run, one row for each scope key, what it did, and what the
source has of each scope, from the newest message to the oldest one. -/
structure BackfillWorld where
  rows : List ScopeProgress
  events : List BackfillEvent
  available : BackfillScope → List BackfillHistoryItem

namespace BackfillWorld

def add (world : BackfillWorld) (event : BackfillEvent) : BackfillWorld :=
  { world with events := world.events ++ [event] }

def arrive (world : BackfillWorld) (scope : BackfillScope) (new : List BackfillHistoryItem) :
    BackfillWorld :=
  { world with available := fun other =>
      if other = scope then new ++ world.available other else world.available other }

/-- Store the row of a scope in place of an earlier one. -/
def upsert (world : BackfillWorld) (progress : ScopeProgress) : BackfillWorld :=
  { world with rows := world.rows.filter (fun row =>
      scopeKeyOf row.conversation ≠ scopeKeyOf progress.conversation) ++ [progress] }

end BackfillWorld

/-- Whether the progress was stored, and the error that the call returned. -/
inductive RecordAnswer where
  | stored
  | storedError (error : InboundEventStoreError)
  | error (error : InboundEventStoreError)

/-- `BackfillStateStoreWithIngestionT`: its answers may depend on all that happened. -/
structure BackfillStore where
  knownScopes : BackfillWorld → Except InboundEventStoreError (List KnownScope)
  loadError : BackfillWorld → Option InboundEventStoreError
  recordAnswer : BackfillWorld → ScopeProgress → RecordAnswer
  insertMessageIfAbsent :
    BackfillWorld → InboundMessageEnvelope → Except InboundEventStoreError IngestMessageOutcome
  finalizeError : BackfillWorld → BackfillOutcome → Option InboundEventStoreError

/-- `HistoryBackfillSourceT`. Before it serves a page, messages may arrive. -/
structure HistoryBackfillSource where
  arrivals : BackfillWorld → BackfillScope → List BackfillHistoryItem
  fetchPage : BackfillWorld → BackfillScope → Option BackfillCursor → ℕ →
    Except BackfillSourceError BackfillPage
  historyStartEvidenceProven : Bool
  pageOrderEvidenceProven : Bool
  accountConversationSetProven : Bool

abbrev BackfillIo := Stepwise BackfillWorld BackfillError

namespace BackfillIo

def note (event : BackfillEvent) : BackfillIo Unit := .atomic fun world => world.add event

/-- A call of the store whose error ends the run. -/
def check (error : BackfillWorld → Option InboundEventStoreError) : BackfillIo Unit := do
  let world ← .get
  match error world with
  | none => pure ()
  | some e => .throw (.state e)

end BackfillIo

open BackfillIo

/-! ## Checking a page -/

def anchorIsStable (anchor : BackfillAnchor) : Bool :=
  !isBlank anchor.messageId && !isBlank anchor.messageSeq

def pushUnique (anomalies : List BackfillAnomaly) (anomaly : BackfillAnomaly) : List BackfillAnomaly :=
  if anomaly ∈ anomalies then anomalies else anomalies ++ [anomaly]

def pushIf (condition : Bool) (anomaly : BackfillAnomaly) (anomalies : List BackfillAnomaly) :
    List BackfillAnomaly :=
  if condition then pushUnique anomalies anomaly else anomalies

def itemAnchorBroken (item : BackfillHistoryItem) : Bool :=
  !anchorIsStable item.anchor || isBlank item.envelope.source.messageId ||
    item.envelope.source.messageId ≠ item.anchor.messageId

def itemOutOfScope (scope : BackfillScope) (item : BackfillHistoryItem) : Bool :=
  item.envelope.source.accountRef ≠ scope.account || item.envelope.conversation ≠ scope.conversation

/-- The loop over the items; `pageAnchors` are the anchors before. -/
def checkItems (scope : BackfillScope) :
    List BackfillHistoryItem → List BackfillAnchor → List BackfillAnomaly → List BackfillAnomaly
  | [], _, anomalies => anomalies
  | item :: rest, pageAnchors, anomalies =>
    checkItems scope rest (pageAnchors ++ [item.anchor])
      (pushIf (item.anchor ∈ pageAnchors) .duplicateAnchor
        (pushIf (itemOutOfScope scope item) .messageScopeMismatch
          (pushIf (itemAnchorBroken item) .emptyAnchor anomalies)))

def checkCursor (page : BackfillPage) (sessionChain : List BackfillAnchor) (pageOrderProven : Bool)
    (current : BackfillCursor) (anomalies : List BackfillAnomaly) : List BackfillAnomaly :=
  let anomalies :=
    match page.items.findIdx? fun item => item.anchor = current.anchor with
    | none => pushUnique anomalies .anchorDisappeared
    | some 0 => anomalies
    | some _ => pushIf pageOrderProven .sortConflict anomalies
  pushIf (pageOrderProven && page.items.any fun item =>
    item.anchor ∈ sessionChain && item.anchor ≠ current.anchor) .sortConflict anomalies

def checkNext (scope : BackfillScope) (current : Option BackfillCursor) (page : BackfillPage)
    (pageOrderProven : Bool) (next : BackfillCursor) (anomalies : List BackfillAnomaly) :
    List BackfillAnomaly :=
  pushIf (current = some next) .noCursorAdvance
    (pushIf (next.anchor ∉ page.items.map BackfillHistoryItem.anchor ||
        (pageOrderProven && (page.items.getLast?.map BackfillHistoryItem.anchor) ≠ some next.anchor))
        .invalidContinuation
      (pushIf (!anchorIsStable next.anchor) .emptyAnchor
        (pushIf (next.account ≠ scope.account) .cursorAccountMismatch anomalies)))

def validatePage (scope : BackfillScope) (current : Option BackfillCursor) (page : BackfillPage)
    (sessionChain : List BackfillAnchor) (pageOrderProven : Bool) : List BackfillAnomaly :=
  let anomalies := pushIf page.items.isEmpty .emptyPage []
  let anomalies := checkItems scope page.items [] anomalies
  let anomalies := pushIf (!page.items.isEmpty && page.items.all fun item =>
    item.anchor ∈ sessionChain) .duplicatePage anomalies
  let anomalies := current.elim anomalies fun current =>
    checkCursor page sessionChain pageOrderProven current anomalies
  match page.continuation with
  | .next next => checkNext scope current page pageOrderProven next anomalies
  | .provenHistoryStart => anomalies
  | .unprovenStop => anomalies

/-! ## Progress -/

def freshProgress (scope : BackfillScope) : ScopeProgress where
  conversation := scope.conversation
  status := .pending
  lastCursor := none
  pagesRead := 0
  eventsRead := 0
  accepted := 0
  duplicates := 0
  reachedBoundary := false
  anomalies := []

def progressToEvidence (progress : ScopeProgress) : ScopeEvidence where
  scopeKey := scopeKeyOf progress.conversation
  pagesRead := progress.pagesRead
  eventsRead := progress.eventsRead
  accepted := progress.accepted
  duplicates := progress.duplicates
  reachedBoundary := progress.reachedBoundary
  anomalies := progress.anomalies

def scopeTerminalStatus (progress : ScopeProgress) : BackfillScopeStatus :=
  if (progressToEvidence progress).isComplete then .verifiedComplete
  else if (progressToEvidence progress).isUnrecoverable then .unrecoverable
  else .unprovable

def ScopeProgress.push (progress : ScopeProgress) (anomaly : BackfillAnomaly) : ScopeProgress :=
  { progress with anomalies := progress.anomalies ++ [anomaly] }

def ScopeProgress.pushUnique (progress : ScopeProgress) (anomaly : BackfillAnomaly) : ScopeProgress :=
  { progress with anomalies := Backfill.pushUnique progress.anomalies anomaly }

/-- The variables that `process_scope` changes for its caller. -/
structure ScopeRun where
  progress : ScopeProgress
  totalEvents : ℕ

def ScopeRun.push (run : ScopeRun) (anomaly : BackfillAnomaly) : ScopeRun :=
  { run with progress := run.progress.push anomaly }

/-- The variables of the loop over the pages. -/
structure ScopeLoop extends ScopeRun where
  cursor : Option BackfillCursor
  sessionChain : List BackfillAnchor

/-- The variables of the loop over the items of a page. -/
structure PageRun extends ScopeRun where
  sessionChain : List BackfillAnchor
  stopAtBoundary : Bool
  configuredCutoffReached : Bool
  budgetExhausted : Bool

/-- What a scope ended with: the error of the source, or whether the budget was exhausted. -/
abbrev ScopeResult := ScopeRun × Except BackfillSourceError Bool

/-- The loop over the pages ends, or goes on. -/
inductive PageEnd where
  | done (result : ScopeResult)
  | more (loop : ScopeLoop)

/-! ## A scope -/

section

variable (store : BackfillStore) (source : HistoryBackfillSource) (budget : BackfillBudget)

def recordScopeProgress (progress : ScopeProgress) : BackfillIo Unit := do
  let world ← .get
  match store.recordAnswer world progress with
  | .stored => .atomic fun world => world.upsert progress
  | .storedError e => do
    .atomic fun world => world.upsert progress
    .throw (.state e)
  | .error e => .throw (.state e)

def insertMessageIfAbsent (scope : BackfillScope) (item : BackfillHistoryItem) :
    BackfillIo (Except InboundEventStoreError IngestMessageOutcome) := do
  note (.inserting scope item)
  let world ← .get
  match store.insertMessageIfAbsent world item.envelope with
  | .error e => pure (.error e)
  | .ok outcome => do
    note (.inserted scope item outcome)
    pure (.ok outcome)

def fetchPage (scope : BackfillScope) (cursor : Option BackfillCursor) :
    BackfillIo (Except BackfillSourceError BackfillPage) := do
  note (.fetching scope)
  .atomic fun world => world.arrive scope (source.arrivals world scope)
  let world ← .get
  match source.fetchPage world scope cursor budget.pageSize with
  | .error e => pure (.error e)
  | .ok page => do
    note (.read scope (world.available scope))
    pure (.ok page)

/-- The message is older than the configured bound. -/
def tooOld (item : BackfillHistoryItem) : Bool :=
  budget.earliestOccurredAtUnixSecs.any fun cutoff => item.envelope.occurredAtUnixSecs < cutoff

def atBoundary (scope : BackfillScope) (item : BackfillHistoryItem) : Bool :=
  scope.boundaryCursor.any fun boundary => item.anchor.messageId = boundary.anchor.messageId

def isBoundary (scope : BackfillScope) (item : BackfillHistoryItem) : Bool :=
  source.pageOrderEvidenceProven && atBoundary scope item

/-- The counters, and what the boundary tells. -/
def PageRun.ingested (run : PageRun) (boundary : Bool) : IngestMessageOutcome → PageRun
  | .accepted _ _ =>
    let progress := { run.progress with accepted := run.progress.accepted + 1 }
    if boundary then
      { run with progress := progress.push .boundaryStateMismatch, stopAtBoundary := true }
    else { run with progress }
  | .duplicate _ =>
    let progress := { run.progress with duplicates := run.progress.duplicates + 1 }
    if boundary then
      { run with progress := { progress with reachedBoundary := true }, stopAtBoundary := true }
    else { run with progress }

def PageRun.countEvent (run : PageRun) : PageRun :=
  { run with
    progress := { run.progress with eventsRead := run.progress.eventsRead + 1 }
    totalEvents := run.totalEvents + 1 }

def PageRun.chain (run : PageRun) (anchor : BackfillAnchor) : PageRun :=
  { run with sessionChain := run.sessionChain ++ [anchor] }

def ingestItems (scope : BackfillScope) :
    List BackfillHistoryItem → PageRun → BackfillIo (PageRun × Option BackfillSourceError)
  | [], run => pure (run, none)
  | item :: rest, run =>
    if budget.maxEventsPerRun ≤ run.totalEvents then
      pure ({ run with progress := run.progress.push .budgetExhausted, budgetExhausted := true }, none)
    else if tooOld budget item then
      ingestItems scope rest { run.countEvent with configuredCutoffReached := true }
    else do
      let answer ← insertMessageIfAbsent store scope item
      match answer with
      | .error e => pure (run.countEvent, some (.unavailable e.toText))
      | .ok outcome =>
        let run := (run.countEvent.ingested (isBoundary source scope item) outcome).chain item.anchor
        if run.stopAtBoundary || run.budgetExhausted then pure (run, none)
        else ingestItems scope rest run

/-- What a page without anomalies leaves, after its items. -/
def afterItems (scope : BackfillScope) (page : BackfillPage) (run : PageRun) : PageEnd :=
  if run.configuredCutoffReached then
    .done (⟨run.progress.pushUnique .configuredCutoffReached, run.totalEvents⟩, .ok run.budgetExhausted)
  else if run.stopAtBoundary || run.budgetExhausted then
    .done (run.toScopeRun, .ok run.budgetExhausted)
  else
    match page.continuation with
    | .next next => .more {
        progress := { run.progress with lastCursor := some next, status := .backfilling }
        totalEvents := run.totalEvents
        cursor := some next
        sessionChain := run.sessionChain }
    | .provenHistoryStart =>
      let progress := { run.progress with lastCursor := none }
      let progress :=
        if scope.boundaryCursor.isNone then
          if source.pageOrderEvidenceProven then { progress with reachedBoundary := true }
          else progress
        else progress.push .boundaryNotFound
      .done (⟨progress, run.totalEvents⟩, .ok false)
    | .unprovenStop =>
      let progress := { run.progress with lastCursor := none }
      .done (⟨progress.push .unprovenStop, run.totalEvents⟩, .ok false)

def rejectedPage (scope : BackfillScope) (page : BackfillPage) (pageAnomalies : List BackfillAnomaly) :
    List BackfillAnomaly :=
  pageAnomalies ++
    (if page.continuation = .unprovenStop then [.unprovenStop] else []) ++
    (if page.continuation = .provenHistoryStart ∧ !source.historyStartEvidenceProven then
      [.untrustedHistoryStart] else []) ++
    (if page.continuation = .provenHistoryStart ∧ scope.boundaryCursor.isSome then
      [.boundaryNotFound] else [])

def processPage (scope : BackfillScope) (loop : ScopeLoop) (page : BackfillPage) :
    BackfillIo PageEnd := do
  let progress := { loop.progress with pagesRead := loop.progress.pagesRead + 1 }
  let pageAnomalies :=
    validatePage scope loop.cursor page loop.sessionChain source.pageOrderEvidenceProven
  if pageAnomalies ≠ [] then
    let anomalies := progress.anomalies ++ rejectedPage source scope page pageAnomalies
    pure (.done (⟨{ progress with anomalies }, loop.totalEvents⟩, .ok false))
  else
    let progress :=
      if source.pageOrderEvidenceProven then progress else progress.pushUnique .untrustedPageOrder
    if page.continuation = .provenHistoryStart ∧ !source.historyStartEvidenceProven then
      pure (.done (⟨progress.push .untrustedHistoryStart, loop.totalEvents⟩, .ok false))
    else do
      let (run, failure) ← ingestItems store source budget scope page.items {
        progress
        totalEvents := loop.totalEvents
        sessionChain := loop.sessionChain
        stopAtBoundary := false
        configuredCutoffReached := false
        budgetExhausted := false }
      match failure with
      | some e => pure (.done (run.toScopeRun, .error e))
      | none => pure (afterItems source scope page run)

section Counting

open Stepwise

variable {store source budget} {C : BackfillWorld → Prop} {E : BackfillError → BackfillWorld → Prop}
  {world : BackfillWorld} {Q : Unit → BackfillWorld → Prop} {scope : BackfillScope}
  {items : List BackfillHistoryItem} {page : BackfillPage} {loop : ScopeLoop}

theorem note_wp {event : BackfillEvent} (hdone : C (world.add event)) (h : Q () (world.add event)) :
    wp (note event) C Q E world := wp_atomic hdone h

theorem insertMessageIfAbsent_wp {item : BackfillHistoryItem}
    {Q : Except InboundEventStoreError IngestMessageOutcome → BackfillWorld → Prop}
    (hpt : C (world.add (.inserting scope item)))
    (herr : ∀ e, Q (.error e) (world.add (.inserting scope item)))
    (hok : ∀ outcome, store.insertMessageIfAbsent (world.add (.inserting scope item)) item.envelope =
        .ok outcome →
      C ((world.add (.inserting scope item)).add (.inserted scope item outcome)) ∧
        Q (.ok outcome) ((world.add (.inserting scope item)).add (.inserted scope item outcome))) :
    wp (insertMessageIfAbsent store scope item) C Q E world := by
  refine wp_bind (note_wp hpt (wp_get_bind ?_))
  split
  · exact wp_pure (herr _)
  · next outcome hout =>
    obtain ⟨hc, hq⟩ := hok outcome hout
    exact wp_bind (note_wp hc (wp_pure hq))

def PageEnd.run : PageEnd → ScopeRun
  | .done result => result.1
  | .more loop => loop.toScopeRun

theorem ingested_same (run : PageRun) (boundary : Bool) (outcome : IngestMessageOutcome)
    (anchor : BackfillAnchor) :
    ((run.countEvent.ingested boundary outcome).chain anchor).progress.pagesRead =
        run.progress.pagesRead ∧
      ((run.countEvent.ingested boundary outcome).chain anchor).progress.conversation =
        run.progress.conversation := by
  cases outcome <;> cases boundary <;> exact ⟨rfl, rfl⟩

/-- The same progress, but for what its items count. -/
def SamePages (progress progress' : ScopeProgress) : Prop :=
  progress'.pagesRead = progress.pagesRead ∧ progress'.conversation = progress.conversation

theorem ingestItems_samePages {run : PageRun} :
    wp (ingestItems store source budget scope items run) (fun _ => True)
      (fun result _ => SamePages run.progress result.1.progress) (fun _ _ => True) world := by
  induction items generalizing run world with
  | nil => exact wp_pure ⟨rfl, rfl⟩
  | cons item rest ih =>
    rw [ingestItems]
    split
    · exact wp_pure ⟨rfl, rfl⟩
    split
    · exact ih
    refine wp_bind (insertMessageIfAbsent_wp trivial (fun _ => wp_pure ⟨rfl, rfl⟩)
      fun outcome _ => ⟨trivial, ?_⟩)
    have hsame := ingested_same run (isBoundary source scope item) outcome item.anchor
    dsimp only
    split
    · exact wp_pure hsame
    · exact wp_mono ih (fun _ h => h) (fun _ _ h => ⟨h.1.trans hsame.1, h.2.trans hsame.2⟩)
        fun _ _ h => h

theorem afterItems_samePages {run : PageRun} :
    SamePages run.progress (afterItems source scope page run).run.progress := by
  unfold afterItems
  split
  · exact ⟨rfl, rfl⟩
  split
  · exact ⟨rfl, rfl⟩
  split
  · exact ⟨rfl, rfl⟩
  · dsimp only
    split
    · split <;> exact ⟨rfl, rfl⟩
    · exact ⟨rfl, rfl⟩
  · exact ⟨rfl, rfl⟩

theorem processPage_samePages :
    wp (processPage store source budget scope loop page) (fun _ => True)
      (fun ended _ => SamePages { loop.progress with pagesRead := loop.progress.pagesRead + 1 }
        ended.run.progress) (fun _ _ => True) world := by
  rw [processPage]
  dsimp only
  split
  · exact wp_pure ⟨rfl, rfl⟩
  split
  · exact wp_pure (by split <;> exact ⟨rfl, rfl⟩)
  refine wp_bind (wp_mono ingestItems_samePages (fun _ h => h) ?_ fun _ _ h => h)
  rintro ⟨run, failure⟩ world' hrun
  have hsame : SamePages { loop.progress with pagesRead := loop.progress.pagesRead + 1 }
      run.progress := by
    dsimp only at hrun
    split at hrun <;> exact hrun
  dsimp only
  split
  · exact wp_pure hsame
  · obtain ⟨hpages, hconv⟩ := afterItems_samePages
    exact wp_pure ⟨hpages.trans hsame.1, hconv.trans hsame.2⟩

/-- A page counts as one, whatever it holds. -/
theorem processPage_counted (ended : PageEnd)
    (h : ∃ world, (processPage store source budget scope loop page world).result = .ok ended) :
    SamePages { loop.progress with pagesRead := loop.progress.pagesRead + 1 } ended.run.progress := by
  obtain ⟨world, hres⟩ := h
  exact wp_ok processPage_samePages hres

end Counting

/-- The checks of the cursor before it is used. -/
def cursorAnomaly (scope : BackfillScope) (cursor : Option BackfillCursor) : Option BackfillAnomaly :=
  cursor.bind fun current =>
    if current.account ≠ scope.account then some .cursorAccountMismatch
    else if !anchorIsStable current.anchor then some .emptyAnchor
    else none

/-- The loop over the pages. It ends because every page that it goes on from has raised `pages_read`
by one (`processPage_counted`), and the budget bounds that. -/
def pageLoop (scope : BackfillScope) (loop : ScopeLoop) : BackfillIo ScopeResult :=
  if budget.maxPagesPerScope ≤ loop.progress.pagesRead then
    pure (loop.toScopeRun.push .budgetExhausted, .ok true)
  else if budget.maxEventsPerRun ≤ loop.totalEvents then
    pure (loop.toScopeRun.push .budgetExhausted, .ok true)
  else
    match cursorAnomaly scope loop.cursor with
    | some anomaly => pure (loop.toScopeRun.push anomaly, .ok false)
    | none => do
      recordScopeProgress store loop.progress
      let fetched ← fetchPage source budget scope loop.cursor
      match fetched with
      | .error e => pure (loop.toScopeRun, .error e)
      | .ok page => do
        let ended ← (processPage store source budget scope loop page).attach
        match ended with
        | ⟨.done result, _⟩ => pure result
        | ⟨.more next, _⟩ => do
          recordScopeProgress store next.progress
          pageLoop scope next
termination_by budget.maxPagesPerScope - loop.progress.pagesRead
decreasing_by
  have hpages : next.progress.pagesRead = loop.progress.pagesRead + 1 :=
    (processPage_counted (.more next) ‹_›).1
  omega

def boundaryAnomaly (scope : BackfillScope) : Option BackfillAnomaly :=
  scope.boundaryCursor.bind fun boundary =>
    if boundary.account ≠ scope.account then some .cursorAccountMismatch
    else if isBlank boundary.anchor.messageId then some .emptyAnchor
    else none

def processScope (scope : BackfillScope) (run : ScopeRun) : BackfillIo ScopeResult :=
  let progress := { run.progress with status := .backfilling }
  match boundaryAnomaly scope with
  | some anomaly => pure (⟨progress.push anomaly, run.totalEvents⟩, .ok false)
  | none => pageLoop store source budget scope {
      progress
      totalEvents := run.totalEvents
      cursor := progress.lastCursor
      sessionChain := [] }

/-! ## A run -/

/-- The progress of a scope that has ended, with its terminal status. -/
def endScope (result : ScopeResult) : ScopeProgress × Bool :=
  let (progress, exhausted) :=
    match result.2 with
    | .ok exhausted => (result.1.progress, exhausted)
    | .error .permissionDenied => (result.1.progress.push .permissionDenied, false)
    | .error other => (result.1.progress.push (.protocolError other.text), false)
  ({ progress with status := scopeTerminalStatus progress }, exhausted)

/-- The variables of the loop over the scopes. -/
structure ClaimedRun where
  progressMap : List ScopeProgress
  totalEvents : ℕ
  budgetExhausted : Bool
  evidence : List ScopeEvidence

/-- `HashMap::remove` on the progress of the run. -/
def takeProgress (key : String) (progressMap : List ScopeProgress) :
    Option ScopeProgress × List ScopeProgress :=
  (progressMap.find? fun progress => scopeKeyOf progress.conversation = key,
    progressMap.filter fun progress => scopeKeyOf progress.conversation ≠ key)

def processScopes : List BackfillScope → ClaimedRun → BackfillIo ClaimedRun
  | [], run => pure run
  | scope :: rest, run =>
    let (found, progressMap) := takeProgress scope.scopeKey run.progressMap
    let progress := found.getD (freshProgress scope)
    if progress.status = .verifiedComplete then
      processScopes rest
        { run with progressMap, evidence := run.evidence ++ [progressToEvidence progress] }
    else do
      let result ← processScope store source budget scope ⟨progress, run.totalEvents⟩
      let (progress, exhausted) := endScope result
      recordScopeProgress store progress
      processScopes rest {
        progressMap
        totalEvents := result.1.totalEvents
        budgetExhausted := run.budgetExhausted || exhausted
        evidence := run.evidence ++ [progressToEvidence progress] }

def finalize (evidence : BackfillEvidence) : BackfillIo BackfillOutcome := do
  let completeness := HistoryCompleteness.fromEvidence evidence
  .ofExcept ((validateGapTransition .backfilling completeness.gapTargetStatus).mapError
    .illegalTransition)
  let outcome : BackfillOutcome := ⟨completeness, evidence, completeness.gapTargetStatus⟩
  check fun world => store.finalizeError world outcome
  pure outcome

def scopeOf (account : SourceAccountRef) (known : KnownScope) : BackfillScope :=
  ⟨account, known.conversation, known.boundaryCursor⟩

def saturatingAdd (a b : ℕ) : ℕ := min (a + b) (2 ^ 32 - 1)

/-- The events that the run has read before. -/
def consumedEvents (progressMap : List ScopeProgress) : ℕ :=
  progressMap.foldl (fun total progress => saturatingAdd total progress.eventsRead) 0

def processClaimed (account : SourceAccountRef) : BackfillIo BackfillOutcome := do
  let world ← .get
  let known ← .ofExcept ((store.knownScopes world).mapError .state)
  check store.loadError
  let world ← .get
  if known.isEmpty then
    finalize store ⟨[], source.accountConversationSetProven, false⟩
  else do
    let run ← processScopes store source budget (known.map (scopeOf account)) {
      progressMap := world.rows
      totalEvents := consumedEvents world.rows
      budgetExhausted := false
      evidence := [] }
    finalize store ⟨run.evidence, source.accountConversationSetProven, run.budgetExhausted⟩

end

end ServerRS.Backfill

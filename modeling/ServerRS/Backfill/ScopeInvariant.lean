import ServerRS.Backfill.PageSpec
import ServerRS.Lib.SplitList

/-!
# What a run keeps of a scope

The source has a list of messages that grows at its newest end, and serves pages of it. The
cursor of a scope stands behind messages that are all inserted (`CursorAt`), and no message
older than the boundary is ever tried (`NoneBeyond`). `ScopeKept` collects what every call of
a run keeps of one scope.
-/

namespace ServerRS.Backfill

open Lib

/-! ## The source -/

/-- The page is a part of the list: it begins with the message of its cursor, or with the
newest one, and a proven start of the history is the end of the list. -/
def Serves (available : List BackfillHistoryItem) (cursor : Option BackfillCursor)
    (page : BackfillPage) : Prop :=
  ∃ before after, available = before ++ page.items ++ after ∧
    (cursor = none → before = []) ∧
    (∀ current, cursor = some current → ∀ item, page.items.head? = some item →
      item.anchor = current.anchor) ∧
    (page.continuation = .provenHistoryStart → after = [])

def DistinctAnchors (available : List BackfillHistoryItem) : Prop :=
  (available.map BackfillHistoryItem.anchor).Nodup

instance (available : List BackfillHistoryItem) : Decidable (DistinctAnchors available) :=
  inferInstanceAs (Decidable (available.map BackfillHistoryItem.anchor).Nodup)

/-- The source serves pages of lists of messages with distinct anchors; messages that arrive
do not have the id of the boundary. -/
structure ServesLists (budget : BackfillBudget) (source : HistoryBackfillSource) : Prop where
  ordered : source.pageOrderEvidenceProven = true
  distinct : ∀ world scope, DistinctAnchors (world.available scope) →
    DistinctAnchors (source.arrivals world scope ++ world.available scope)
  newer : ∀ world scope, ∀ item ∈ source.arrivals world scope, atBoundary scope item = false
  serves : ∀ world scope cursor page,
    source.fetchPage world scope cursor budget.pageSize = .ok page →
      Serves (world.available scope) cursor page

/-! ## Reading off the events -/

/-- The lists of the pages that were read in a scope. -/
def reads (scope : BackfillScope) (events : List BackfillEvent) : List (List BackfillHistoryItem) :=
  events.filterMap fun
    | .fetching _ => none
    | .read other available => if other = scope then some available else none
    | .inserting _ _ => none
    | .inserted _ _ _ => none

/-- What the source had when the first page of the scope was read. -/
def firstRead (scope : BackfillScope) (world : BackfillWorld) : Option (List BackfillHistoryItem) :=
  (reads scope world.events).head?

/-- The message was passed to the store. -/
def Tried (scope : BackfillScope) (world : BackfillWorld) (item : BackfillHistoryItem) : Prop :=
  .inserting scope item ∈ world.events

/-- The store answered with an outcome. -/
def InsertedOk (scope : BackfillScope) (world : BackfillWorld) (item : BackfillHistoryItem) : Prop :=
  ∃ outcome, .inserted scope item outcome ∈ world.events

/-! ## What is kept -/

section

variable (budget : BackfillBudget) (scope : BackfillScope) (world : BackfillWorld)

/-- Of the messages of the first read, those in the list are inserted. -/
def AllInserted (items : List BackfillHistoryItem) : Prop :=
  ∀ first, firstRead scope world = some first → ∀ item ∈ items, item ∈ first →
    InsertedOk scope world item

/-- The cursor stands at a message; it and the newer ones are inserted, and the boundary is
not among them. -/
def CursorAt (cursor : BackfillCursor) : Prop :=
  ∃ passed last rest, world.available scope = passed ++ last :: rest ∧
    last.anchor = cursor.anchor ∧ (∀ item ∈ passed ++ [last], atBoundary scope item = false) ∧
    (firstRead scope world).isSome ∧ AllInserted scope world (passed ++ [last])

/-- No message older than a boundary within the configured bound is tried. -/
def NoneBeyond : Prop :=
  ∀ newer boundary older, world.available scope = newer ++ boundary :: older →
    atBoundary scope boundary = true → tooOld budget boundary = false →
      ∀ item ∈ older, ¬Tried scope world item

/-- Nothing of the scope is missing. -/
def Covered : Prop :=
  (firstRead scope world).isSome ∧
    match scope.boundaryCursor with
    | some _ => ∃ newer boundary older, world.available scope = newer ++ boundary :: older ∧
        atBoundary scope boundary = true ∧ tooOld budget boundary = false ∧
          AllInserted scope world newer
    | none => AllInserted scope world (world.available scope)

structure ProgressKept (progress : ScopeProgress) : Prop where
  conversation : progress.conversation = scope.conversation
  cursor : ∀ current, progress.lastCursor = some current → CursorAt scope world current
  reached : progress.reachedBoundary = true → progress.anomalies ≠ []

/-- A row says that its scope is complete only if it is covered. -/
structure RowKept (row : ScopeProgress) : Prop where
  complete : row.status = .verifiedComplete → Covered budget scope world
  kept : row.status ≠ .verifiedComplete → ProgressKept scope world row

/-- What the run keeps of a scope. -/
structure ScopeKept : Prop where
  distinct : DistinctAnchors (world.available scope)
  grown : ∀ list ∈ reads scope world.events, ∃ new, world.available scope = new ++ list ∧
    ∀ item ∈ new, atBoundary scope item = false
  tried : reads scope world.events = [] → ∀ item, ¬Tried scope world item
  beyond : NoneBeyond budget scope world
  rows : ∀ row ∈ world.rows, row.conversation = scope.conversation → RowKept budget scope world row

end

/-! ## Events of a scope -/

section

variable {scope : BackfillScope} {world : BackfillWorld} {item : BackfillHistoryItem}

theorem reads_add (event : BackfillEvent) :
    reads scope (world.add event).events = reads scope world.events ++ reads scope [event] :=
  List.filterMap_append

variable {event : BackfillEvent}

theorem reads_add_of_other (h : reads scope [event] = []) :
    reads scope (world.add event).events = reads scope world.events := by
  rw [reads_add, h, List.append_nil]

theorem reads_add_read (available : List BackfillHistoryItem) :
    reads scope (world.add (.read scope available)).events ≠ [] := by
  rw [reads_add]
  simp [reads]

theorem firstRead_add_of_some {first : List BackfillHistoryItem}
    (h : firstRead scope world = some first) : firstRead scope (world.add event) = some first := by
  rw [firstRead] at h
  rw [firstRead, reads_add, List.head?_append, h]
  rfl

theorem InsertedOk.add (h : InsertedOk scope world item) :
    InsertedOk scope (world.add event) item := by
  obtain ⟨outcome, hmem⟩ := h
  exact ⟨outcome, List.mem_append_left _ hmem⟩

theorem tried_add_iff : Tried scope (world.add event) item ↔
    Tried scope world item ∨ event = .inserting scope item := by
  rw [Tried, BackfillWorld.add, List.mem_append, List.mem_singleton, eq_comm (a := event)]
  rfl

end

/-! ## Events keep a scope -/

/-- What an event must satisfy in its scope: a message that is tried is not beyond the
boundary, and a read sees what the source has. -/
def EventSafe (budget : BackfillBudget) (scope : BackfillScope) (world : BackfillWorld) :
    BackfillEvent → Prop
  | .fetching _ => True
  | .read other available => other = scope → available = world.available scope
  | .inserting other item => other = scope → reads scope world.events ≠ [] ∧
      ∀ newer boundary older, world.available scope = newer ++ boundary :: older →
        atBoundary scope boundary = true → tooOld budget boundary = false → item ∉ older
  | .inserted _ _ _ => True

section

variable {budget : BackfillBudget} {scope : BackfillScope} {world : BackfillWorld}
  {event : BackfillEvent} {items : List BackfillHistoryItem}

theorem AllInserted.add (h : AllInserted scope world items) (hread : (firstRead scope world).isSome) :
    AllInserted scope (world.add event) items := by
  obtain ⟨first, hfst⟩ := Option.isSome_iff_exists.mp hread
  intro other hoth item hitem hmem
  rw [firstRead_add_of_some hfst] at hoth
  cases hoth
  exact (h first hfst item hitem hmem).add

theorem isSome_firstRead_add (h : (firstRead scope world).isSome) :
    (firstRead scope (world.add event)).isSome := by
  obtain ⟨first, hfst⟩ := Option.isSome_iff_exists.mp h
  rw [firstRead_add_of_some hfst]
  rfl

variable {cursor : BackfillCursor} {progress row : ScopeProgress}

theorem CursorAt.add (h : CursorAt scope world cursor) :
    CursorAt scope (world.add event) cursor := by
  obtain ⟨passed, last, rest, hspl, hanch, hnone, hread, hall⟩ := h
  exact ⟨passed, last, rest, hspl, hanch, hnone, isSome_firstRead_add hread, hall.add hread⟩

theorem Covered.add (h : Covered budget scope world) : Covered budget scope (world.add event) := by
  obtain ⟨hread, h⟩ := h
  refine ⟨isSome_firstRead_add hread, ?_⟩
  split at h
  · obtain ⟨newer, boundary, older, hspl, hbd, hrec, hall⟩ := h
    exact ⟨newer, boundary, older, hspl, hbd, hrec, hall.add hread⟩
  · exact h.add hread

theorem ProgressKept.add (h : ProgressKept scope world progress) :
    ProgressKept scope (world.add event) progress :=
  ⟨h.conversation, fun current hcur => (h.cursor current hcur).add, h.reached⟩

theorem RowKept.add (h : RowKept budget scope world row) :
    RowKept budget scope (world.add event) row :=
  ⟨fun hstat => (h.complete hstat).add, fun hstat => (h.kept hstat).add⟩

theorem ScopeKept.add (h : ScopeKept budget scope world) (hsafe : EventSafe budget scope world event) :
    ScopeKept budget scope (world.add event) := by
  refine ⟨h.distinct, fun list hlist => ?_, fun hnone item => ?_, ?_,
    fun row hrow hconv => (h.rows row hrow hconv).add⟩
  · rw [reads_add, List.mem_append] at hlist
    rcases hlist with hlist | hlist
    · exact h.grown list hlist
    · cases event with
      | fetching _ => exact absurd hlist List.not_mem_nil
      | read other available =>
        simp only [reads, List.filterMap_cons, List.filterMap_nil] at hlist
        split at hlist
        · exact absurd hlist (by simp)
        · next heq =>
          split at heq
          · next hoth =>
            cases heq
            obtain rfl := List.mem_singleton.mp hlist
            exact ⟨[], (hsafe hoth).symm, fun _ hitem => absurd hitem List.not_mem_nil⟩
          · cases heq
      | inserting _ _ => exact absurd hlist List.not_mem_nil
      | inserted _ _ _ => exact absurd hlist List.not_mem_nil
  · rw [reads_add, List.append_eq_nil_iff] at hnone
    rw [tried_add_iff]
    rintro (htried | rfl)
    · exact h.tried hnone.1 item htried
    · exact (hsafe rfl).1 hnone.1
  · intro newer boundary older hspl hbd hrec item hitem
    rw [tried_add_iff]
    rintro (htried | rfl)
    · exact h.beyond newer boundary older hspl hbd hrec item hitem htried
    · exact (hsafe rfl).2 newer boundary older hspl hbd hrec hitem

/-! ## Rows keep a scope -/

theorem ProgressKept.upsert (h : ProgressKept scope world row) (progress : ScopeProgress) :
    ProgressKept scope (world.upsert progress) row :=
  ⟨h.conversation, h.cursor, h.reached⟩

theorem RowKept.upsert (h : RowKept budget scope world row) (progress : ScopeProgress) :
    RowKept budget scope (world.upsert progress) row :=
  ⟨h.complete, fun hstat => (h.kept hstat).upsert progress⟩

theorem ScopeKept.upsert (h : ScopeKept budget scope world)
    (hrow : progress.conversation = scope.conversation → RowKept budget scope world progress) :
    ScopeKept budget scope (world.upsert progress) := by
  refine ⟨h.distinct, h.grown, h.tried, h.beyond, fun row hmem hconv => ?_⟩
  rcases List.mem_append.mp hmem with hmem | hmem
  · exact (h.rows row (List.mem_of_mem_filter hmem) hconv).upsert progress
  · obtain rfl := List.mem_singleton.mp hmem
    exact (hrow hconv).upsert row

/-! ## Arrivals keep a scope -/

variable {new : List BackfillHistoryItem} {available : BackfillScope → List BackfillHistoryItem}

/-- Messages that arrive are not in the first read. -/
theorem AllInserted.arrive (h : AllInserted scope world items)
    (hgrown : ∀ list ∈ reads scope world.events, ∃ new, world.available scope = new ++ list ∧
      ∀ item ∈ new, atBoundary scope item = false)
    (hdist : DistinctAnchors (new ++ world.available scope)) :
    AllInserted scope { world with available } (new ++ items) := by
  intro first hfst item hitem hmem
  rcases List.mem_append.mp hitem with hitem | hitem
  · obtain ⟨grown, hspl, -⟩ := hgrown first (List.mem_of_mem_head? hfst)
    rw [DistinctAnchors, List.map_append, List.nodup_append] at hdist
    refine absurd rfl (hdist.2.2 item.anchor (List.mem_map_of_mem hitem)
      item.anchor (List.mem_map.mpr ⟨item, ?_, rfl⟩))
    rw [hspl]
    exact List.mem_append_right _ hmem
  · exact h first hfst item hitem hmem

theorem CursorAt.arrive (h : CursorAt scope world cursor) (hkept : ScopeKept budget scope world)
    (hav : available scope = new ++ world.available scope)
    (hdist : DistinctAnchors (new ++ world.available scope))
    (hnew : ∀ item ∈ new, atBoundary scope item = false) :
    CursorAt scope { world with available } cursor := by
  obtain ⟨passed, last, rest, hspl, hanch, hnone, hread, hall⟩ := h
  refine ⟨new ++ passed, last, rest, ?_, hanch, fun item hitem => ?_, hread, ?_⟩
  · show available scope = _
    rw [hav, hspl, List.append_assoc]
  · rw [List.append_assoc, List.mem_append] at hitem
    exact hitem.elim (hnew item) (hnone item)
  · rw [List.append_assoc]
    exact hall.arrive hkept.grown hdist

theorem ProgressKept.arrive (h : ProgressKept scope world progress)
    (hkept : ScopeKept budget scope world) (hav : available scope = new ++ world.available scope)
    (hdist : DistinctAnchors (new ++ world.available scope))
    (hnew : ∀ item ∈ new, atBoundary scope item = false) :
    ProgressKept scope { world with available } progress :=
  ⟨h.conversation, fun current hcur =>
    (h.cursor current hcur).arrive hkept hav hdist hnew, h.reached⟩

theorem ScopeKept.arrive (h : ScopeKept budget scope world)
    (hav : available scope = new ++ world.available scope)
    (hdist : DistinctAnchors (new ++ world.available scope))
    (hnew : ∀ item ∈ new, atBoundary scope item = false) :
    ScopeKept budget scope { world with available } := by
  have hlist : BackfillWorld.available { world with available } scope =
      new ++ world.available scope := hav
  have hcov : Covered budget scope world → Covered budget scope { world with available } := by
    rintro ⟨hread, hcov⟩
    refine ⟨hread, ?_⟩
    split at hcov
    · obtain ⟨newer, boundary, older, hspl, hbd, hrec, hall⟩ := hcov
      exact ⟨new ++ newer, boundary, older, by rw [hlist, hspl, List.append_assoc], hbd,
        hrec, hall.arrive h.grown hdist⟩
    · show AllInserted scope { world with available } (available scope)
      rw [hav]
      exact hcov.arrive h.grown hdist
  refine ⟨by rw [hlist]; exact hdist, fun earlier hear => ?_, h.tried, ?_,
    fun row hrow hconv => ?_⟩
  · obtain ⟨grown, hspl, hnone⟩ := h.grown earlier hear
    refine ⟨new ++ grown, by rw [hlist, hspl, List.append_assoc], fun item hitem => ?_⟩
    exact (List.mem_append.mp hitem).elim (hnew item) (hnone item)
  · -- the boundary is not among the new messages
    intro newer boundary older hspl hbd hrec item hitem
    have hnot : boundary ∉ new := fun hmem => nomatch (hnew boundary hmem).symm.trans hbd
    obtain ⟨between, -, hold⟩ := split_of_not_mem (hlist.symm.trans hspl) hnot
    exact h.beyond between boundary older hold hbd hrec item hitem
  · have hrow := h.rows row hrow hconv
    exact ⟨fun hstat => hcov (hrow.complete hstat),
      fun hstat => (hrow.kept hstat).arrive h hav hdist hnew⟩

end

/-! ## A source and a store for concrete runs

`pagedSource` serves the list of a scope in pages of the size that is asked for, each from the message
of its cursor on; `memoryStore` keeps the messages that were inserted. -/

/-! ## Pages of a list -/

def fromCursor (available : List BackfillHistoryItem) : Option BackfillCursor → List BackfillHistoryItem
  | none => available
  | some cursor => available.dropWhile fun item => item.anchor ≠ cursor.anchor

def firstPage (account : SourceAccountRef) (pageSize : ℕ) (rest : List BackfillHistoryItem) :
    BackfillPage :=
  if rest.length ≤ pageSize then ⟨rest, .provenHistoryStart⟩
  else
    match (rest.take pageSize).getLast? with
    | none => ⟨[], .unprovenStop⟩
    | some last => ⟨rest.take pageSize, .next ⟨account, last.anchor⟩⟩

def pagedSource : HistoryBackfillSource where
  arrivals _ _ := []
  fetchPage world scope cursor pageSize :=
    .ok (firstPage scope.account pageSize (fromCursor (world.available scope) cursor))
  historyStartEvidenceProven := true
  pageOrderEvidenceProven := true
  accountConversationSetProven := false

theorem firstPage_split (account : SourceAccountRef) (pageSize : ℕ) (rest : List BackfillHistoryItem) :
    ∃ after, rest = (firstPage account pageSize rest).items ++ after ∧
      ((firstPage account pageSize rest).continuation = .provenHistoryStart → after = []) := by
  rw [firstPage]
  split
  · exact ⟨[], (List.append_nil rest).symm, fun _ => rfl⟩
  · split
    · exact ⟨rest, rfl, fun h => nomatch h⟩
    · exact ⟨rest.drop pageSize, (List.take_append_drop pageSize rest).symm, fun h => nomatch h⟩

theorem serves_firstPage (available : List BackfillHistoryItem) (cursor : Option BackfillCursor)
    (account : SourceAccountRef) (pageSize : ℕ) :
    Serves available cursor (firstPage account pageSize (fromCursor available cursor)) := by
  obtain ⟨after, hspl, hsta⟩ := firstPage_split account pageSize (fromCursor available cursor)
  cases cursor with
  | none => exact ⟨[], after, hspl, fun _ => rfl, fun _ hcurs => (nomatch hcurs), hsta⟩
  | some cursor =>
    have hlist := List.takeWhile_append_dropWhile (p := fun item => decide (item.anchor ≠ cursor.anchor))
      (l := available)
    refine ⟨available.takeWhile fun item => item.anchor ≠ cursor.anchor, after, ?_,
      fun hcurs => (nomatch hcurs), fun current hcur item hitem => ?_, hsta⟩
    · rw [List.append_assoc, ← hspl]
      exact hlist.symm
    · obtain rfl := Option.some.inj hcur
      -- the first message that is not dropped has the anchor of the cursor
      have hhead : (fromCursor available (some cursor)).head? = some item := by
        rw [hspl, List.head?_append, hitem]
        rfl
      have hnot := List.head?_dropWhile_not (fun item => decide (item.anchor ≠ cursor.anchor)) available
      rw [fromCursor] at hhead
      rw [hhead] at hnot
      simpa using hnot

theorem servesLists_pagedSource (budget : BackfillBudget) : ServesLists budget pagedSource where
  ordered := rfl
  distinct _ _ hdist := hdist
  newer _ _ _ hitem := absurd hitem List.not_mem_nil
  serves world scope cursor page hpage := by
    obtain rfl := Except.ok.inj hpage
    exact serves_firstPage _ cursor scope.account budget.pageSize

/-! ## A store -/

def insertedSources (world : BackfillWorld) : List SourceMessageRef :=
  world.events.filterMap fun
    | .inserted _ item _ => some item.envelope.source
    | .inserting _ _ => none
    | .fetching _ => none
    | .read _ _ => none

theorem InsertedOk.mem_insertedSources {scope : BackfillScope} {world : BackfillWorld}
    {item : BackfillHistoryItem} (h : InsertedOk scope world item) :
    item.envelope.source ∈ insertedSources world := by
  obtain ⟨outcome, hmem⟩ := h
  exact List.mem_filterMap.mpr ⟨_, hmem, rfl⟩

/-- It starts with some messages, and answers every call. -/
def memoryStore (known : List KnownScope) (initial : List SourceMessageRef) : BackfillStore where
  knownScopes _ := .ok known
  loadError _ := none
  recordAnswer _ _ := .stored
  insertMessageIfAbsent world message :=
    .ok (if message.source ∈ initial ++ insertedSources world then .duplicate ⟨"event", by decide⟩
      else .accepted ⟨"event", by decide⟩ none)
  finalizeError _ _ := none

/-! ## Messages -/

def scriptedAccount : SourceAccountRef := ⟨.napCat, "account"⟩

def scriptedConversation : ConversationRef := ⟨.group, "conversation"⟩

def scriptedItem (messageId messageSeq : String) : BackfillHistoryItem where
  envelope := {
    source := ⟨.napCat, "account", messageId⟩
    conversation := scriptedConversation
    actor := ⟨.external, "actor"⟩
    occurredAtUnixSecs := 0
    normalizedText := "text"
    segments := []
    connectionEpochId := none
    senderProfile := none }
  anchor := ⟨messageId, messageSeq⟩

def scriptedBudget : BackfillBudget where
  pageSize := 3
  maxPagesPerScope := 10
  maxEventsPerRun := 100
  earliestOccurredAtUnixSecs := none
  pageSize_pos := by decide
  pageSize_le := by decide
  maxPages_pos := by decide
  maxPages_le := by decide
  maxEvents_pos := by decide
  maxEvents_le := by decide

def scriptedKnown (boundary : BackfillAnchor) : List KnownScope :=
  [⟨scriptedConversation, some ⟨scriptedAccount, boundary⟩⟩]

def scriptedScope (boundary : BackfillAnchor) : BackfillScope :=
  ⟨scriptedAccount, scriptedConversation, some ⟨scriptedAccount, boundary⟩⟩

/-- A run on a list of messages that has not begun. -/
def scriptedStart (available : List BackfillHistoryItem) : BackfillWorld := ⟨[], [], fun _ => available⟩

/-- The run of one process on it; the message `b` is in the store. -/
def scriptedRun (boundary : BackfillAnchor) (available : List BackfillHistoryItem) : BackfillWorld :=
  (processClaimed (memoryStore (scriptedKnown boundary) [⟨.napCat, "account", "b"⟩]) pagedSource
    scriptedBudget scriptedAccount (scriptedStart available)).state

end ServerRS.Backfill

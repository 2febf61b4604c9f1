import Mathlib.Order.OrderDual
import ServerRS.Lib.Table
import ServerRS.Lib.Window
import ServerRS.Threading.Planner

/-!
# Claiming a batch of events

Models `claim_projection_batch` of `mysql_threading.rs` with the rows that it reads, joined with their
accounts and conversations. What it says of an event that it hands out is true of the store
(`supplied_claim`).
-/

namespace ServerRS.Threading

open Lib

/-! ## Rows -/

/-- `secretary_source_events`. -/
structure SourceEventRow where
  sourceEventId : SourceEventId
  account : SourceAccountRef
  conversation : ConversationRef
  actorPlatformId : String
  occurredAtUnixSecs : Int
  replyToEventId : Option SourceEventId
deriving DecidableEq

def SourceEventRow.byTime (row : SourceEventRow) : ℤ ×ₗ String :=
  row.sourceEventId.atTime row.occurredAtUnixSecs

/-- `secretary_event_threads`. -/
structure EventThreadRow where
  threadId : EventThreadId
  account : SourceAccountRef
  status : ThreadStatus
deriving DecidableEq

/-- `is_terminal_thread_status`. -/
def EventThreadRow.isTerminal (row : EventThreadRow) : Bool :=
  row.status = .resolved || row.status = .closed

/-- `secretary_effective_thread_events`, a view with a row for each of `secretary_thread_events`. -/
structure ThreadEventRow where
  sourceEventId : SourceEventId
  threadId : EventThreadId
deriving DecidableEq

/-- `secretary_thread_projection_claims`. -/
structure ProjectionClaim where
  sourceEventId : SourceEventId
  leaseToken : Option String
  leaseExpiresAt : Option ℕ
deriving DecidableEq

structure Store where
  events : List SourceEventRow
  threads : List EventThreadRow
  threadEvents : List ThreadEventRow
  claims : List ProjectionClaim
deriving DecidableEq

/-- The primary keys. -/
structure Store.Keyed (store : Store) : Prop where
  events : (store.events.map SourceEventRow.sourceEventId).Nodup
  threads : (store.threads.map EventThreadRow.threadId).Nodup

/-! ## The context of an event -/

namespace Store

variable (store : Store)

def threadOf (id : SourceEventId) : Option EventThreadRow := do
  let member ← store.threadEvents.find? fun member => decide (member.sourceEventId = id)
  store.threads.find? fun thread => decide (thread.threadId = member.threadId)

/-- The events that are in a thread, with their threads. -/
def projected : List (SourceEventRow × EventThreadRow) :=
  store.events.filterMap fun event => (store.threadOf event.sourceEventId).map (event, ·)

/-- The thread of the first reply to an event. -/
def childThread (id : SourceEventId) : Option EventThreadRow :=
  ((firstRows (fun pair : SourceEventRow × EventThreadRow => pair.1.byTime) 1
    (store.projected.filter fun pair => pair.1.replyToEventId = some id)).head?).map Prod.snd

/-- The last event before `row` in its conversation, within the window, and its thread. -/
def previousOf (window : Int) (row : SourceEventRow) : Option (SourceEventRow × EventThreadRow) :=
  (firstRows (fun pair : SourceEventRow × EventThreadRow => OrderDual.toDual pair.1.byTime) 1
    (store.projected.filter fun pair =>
      pair.1.account = row.account && pair.1.conversation = row.conversation &&
        decide (pair.1.byTime < row.byTime) &&
        decide (saturatingSub row.occurredAtUnixSecs window ≤ pair.1.occurredAtUnixSecs))).head?

def projectionEvent (window : Int) (row : SourceEventRow) : ThreadProjectionEvent :=
  let parent := row.replyToEventId.bind store.threadOf
  let child := store.childThread row.sourceEventId
  let previous := store.previousOf window row
  {
    sourceEventId := row.sourceEventId
    account := row.account
    conversation := row.conversation
    actorId := row.actorPlatformId
    occurredAtUnixSecs := row.occurredAtUnixSecs
    replyToEventId := row.replyToEventId
    replyParentThreadId := parent.map EventThreadRow.threadId
    replyChildThreadId := child.map EventThreadRow.threadId
    previousInConversation := previous.map fun pair =>
      ⟨pair.1.sourceEventId, pair.2.threadId, pair.1.actorPlatformId, pair.1.occurredAtUnixSecs⟩
    replyParentThreadIsTerminal := parent.any EventThreadRow.isTerminal
    replyChildThreadIsTerminal := child.any EventThreadRow.isTerminal
    previousThreadIsTerminal := previous.any fun pair => pair.2.isTerminal }

/-! ## Claims -/

/-- Nobody has a lease on the event, or the lease has run out. -/
def isFree (now : ℕ) (id : SourceEventId) : Bool :=
  match store.claims.find? fun claim => decide (claim.sourceEventId = id) with
  | none => true
  | some claim =>
    claim.leaseToken.isNone || claim.leaseExpiresAt.any fun expires => decide (expires < now)

/-- The events that may be claimed. Rows that another transaction has locked are skipped. -/
def claimable (now : ℕ) (locked : SourceEventId → Bool) : List SourceEventRow :=
  store.events.filter fun event =>
    !(store.threadEvents.any fun member => member.sourceEventId = event.sourceEventId) &&
      store.isFree now event.sourceEventId && !locked event.sourceEventId

/-- `INSERT … ON DUPLICATE KEY UPDATE` of a claim. -/
def claim (leaseToken : String) (leaseExpiresAt : ℕ) (store : Store) (row : SourceEventRow) : Store :=
  let new : ProjectionClaim := ⟨row.sourceEventId, some leaseToken, some leaseExpiresAt⟩
  let isSame (claim : ProjectionClaim) : Bool := claim.sourceEventId = row.sourceEventId
  let claims :=
    if store.claims.any isSame then updateWhere isSame (fun _ => new) store.claims
    else store.claims ++ [new]
  { store with claims }

end Store

/-- What a call of `claim_projection_batch` depends on. -/
structure ClaimRequest where
  maxEvents : ℕ
  leaseSecs : ℕ
  sameConversationWindowSecs : Int
  now : ℕ
  leaseToken : String
  locked : SourceEventId → Bool

def claimProjectionBatch (request : ClaimRequest) (store : Store) :
    Option ClaimedThreadProjectionBatch × Store :=
  let rows := firstRows SourceEventRow.byTime request.maxEvents
    (store.claimable request.now request.locked)
  if rows = [] then (none, store)
  else
    (some ⟨request.leaseToken, rows.map (store.projectionEvent request.sameConversationWindowSecs)⟩,
      rows.foldl (Store.claim request.leaseToken (request.now + request.leaseSecs)) store)

/-! ## What a claim supplies -/

namespace Store

variable (store : Store)

/-- A thread of the store, and whether it is finished. -/
def HasThread (threadId : EventThreadId) (isTerminal : Bool) : Prop :=
  ∃ thread ∈ store.threads, thread.threadId = threadId ∧ thread.isTerminal = isTerminal

/-- The event is in the account and the conversation of `event`. -/
def SameConversation (id : SourceEventId) (event : ThreadProjectionEvent) : Prop :=
  ∃ row ∈ store.events, row.sourceEventId = id ∧ row.account = event.account ∧
    row.conversation = event.conversation

instance (id : SourceEventId) (event : ThreadProjectionEvent) :
    Decidable (store.SameConversation id event) :=
  inferInstanceAs (Decidable (∃ row ∈ store.events, row.sourceEventId = id ∧ _))

/-- What is said of an event is true of the store. -/
structure Supplied (window : Int) (event : ThreadProjectionEvent) : Prop where
  row : store.SameConversation event.sourceEventId event
  parent : ∀ threadId, event.replyParentThreadId = some threadId →
    store.HasThread threadId event.replyParentThreadIsTerminal
  child : ∀ threadId, event.replyChildThreadId = some threadId →
    store.HasThread threadId event.replyChildThreadIsTerminal
  previous : ∀ previous, event.previousInConversation = some previous →
    store.SameConversation previous.sourceEventId event ∧
      toLex (previous.occurredAtUnixSecs, previous.sourceEventId.asStr) < event.byTime ∧
      saturatingSub event.occurredAtUnixSecs window ≤ previous.occurredAtUnixSecs ∧
      store.HasThread previous.threadId event.previousThreadIsTerminal
  distinct : ∀ previous, event.previousInConversation = some previous →
    previous.sourceEventId ≠ event.sourceEventId

variable {store} {id : SourceEventId} {thread : EventThreadRow}
  {pair : SourceEventRow × EventThreadRow} {row : SourceEventRow}

theorem threadOf_mem (h : store.threadOf id = some thread) : thread ∈ store.threads := by
  obtain ⟨member, -, hfnd⟩ := Option.bind_eq_some_iff.mp h
  exact List.mem_of_find?_eq_some hfnd

theorem mem_projected (h : pair ∈ store.projected) :
    pair.1 ∈ store.events ∧ pair.2 ∈ store.threads := by
  obtain ⟨event, hev, hpair⟩ := List.mem_filterMap.mp h
  obtain ⟨thread, hthr, rfl⟩ := Option.map_eq_some_iff.mp hpair
  exact ⟨hev, threadOf_mem hthr⟩

theorem childThread_mem (h : store.childThread id = some thread) : thread ∈ store.threads := by
  obtain ⟨pair, hpair, rfl⟩ := Option.map_eq_some_iff.mp h
  have hmem := (List.mem_filter.mp (mem_of_mem_firstRows (List.mem_of_head? hpair))).1
  exact (mem_projected hmem).2

theorem previousOf_spec {window : Int} (h : store.previousOf window row = some pair) :
    (pair.1 ∈ store.events ∧ pair.2 ∈ store.threads) ∧ pair.1.account = row.account ∧
      pair.1.conversation = row.conversation ∧ pair.1.byTime < row.byTime ∧
      saturatingSub row.occurredAtUnixSecs window ≤ pair.1.occurredAtUnixSecs := by
  obtain ⟨hmem, hcond⟩ := List.mem_filter.mp (mem_of_mem_firstRows (List.mem_of_head? h))
  simp only [Bool.and_eq_true, decide_eq_true_iff, and_assoc] at hcond
  exact ⟨mem_projected hmem, hcond⟩

theorem supplied_projectionEvent (hkeyed : store.Keyed) {window : Int} (hrow : row ∈ store.events) :
    store.Supplied window (store.projectionEvent window row) where
  row := ⟨row, hrow, rfl, rfl, rfl⟩
  parent threadId h := by
    obtain ⟨thread, hpar, rfl⟩ := Option.map_eq_some_iff.mp h
    obtain ⟨id, -, hthr⟩ := Option.bind_eq_some_iff.mp hpar
    refine ⟨thread, threadOf_mem hthr, rfl, ?_⟩
    show thread.isTerminal = (row.replyToEventId.bind store.threadOf).any EventThreadRow.isTerminal
    rw [hpar]
    rfl
  child threadId h := by
    obtain ⟨thread, hchild, rfl⟩ := Option.map_eq_some_iff.mp h
    refine ⟨thread, childThread_mem hchild, rfl, ?_⟩
    show thread.isTerminal = (store.childThread row.sourceEventId).any EventThreadRow.isTerminal
    rw [hchild]
    rfl
  previous previous h := by
    obtain ⟨pair, hpair, rfl⟩ := Option.map_eq_some_iff.mp h
    obtain ⟨⟨hev, hthr⟩, hacc, hconv, hear, hwdw⟩ := previousOf_spec hpair
    refine ⟨⟨pair.1, hev, rfl, hacc, hconv⟩, hear, hwdw, pair.2, hthr, rfl, ?_⟩
    show pair.2.isTerminal = (store.previousOf window row).any fun pair => pair.2.isTerminal
    rw [hpair]
    rfl
  distinct previous h := by
    obtain ⟨pair, hpair, rfl⟩ := Option.map_eq_some_iff.mp h
    obtain ⟨⟨hev, -⟩, -, -, hear, -⟩ := previousOf_spec hpair
    intro hsame
    rw [eq_of_key_eq hkeyed.events hev hrow hsame] at hear
    exact lt_irrefl _ hear

end Store

variable {request : ClaimRequest} {store : Store} {batch : ClaimedThreadProjectionBatch}

theorem events_of_claim (h : (claimProjectionBatch request store).1 = some batch) :
    ∃ rows : List SourceEventRow, rows.Subperm store.events ∧
      batch.events = rows.map (store.projectionEvent request.sameConversationWindowSecs) := by
  rw [claimProjectionBatch] at h
  split at h
  · cases h
  · cases h
    exact ⟨_, firstRows_subperm.trans List.filter_sublist.subperm, rfl⟩

theorem supplied_claim (hkeyed : store.Keyed)
    (h : (claimProjectionBatch request store).1 = some batch) :
    ∀ event ∈ batch.events, store.Supplied request.sameConversationWindowSecs event := by
  obtain ⟨rows, hsub, hevs⟩ := events_of_claim h
  intro event hev
  rw [hevs] at hev
  obtain ⟨row, hrow, rfl⟩ := List.mem_map.mp hev
  exact Store.supplied_projectionEvent hkeyed (hsub.subset hrow)

theorem nodup_claim (hkeyed : store.Keyed) (h : (claimProjectionBatch request store).1 = some batch) :
    (batch.events.map ThreadProjectionEvent.sourceEventId).Nodup := by
  obtain ⟨rows, hsub, hevs⟩ := events_of_claim h
  have hids : batch.events.map ThreadProjectionEvent.sourceEventId =
      rows.map SourceEventRow.sourceEventId := by
    rw [hevs, List.map_map]
    rfl
  rw [hids]
  obtain ⟨picked, hperm, hsublist⟩ := hsub
  exact (hperm.map _).nodup_iff.mp ((hsublist.map _).nodup hkeyed.events)

end ServerRS.Threading

import Mathlib.Data.List.Basic
import ServerRS.Domain.Inbound

/-!
# The ingestion worker

Models the in-memory side of `ingestion_worker.rs`: callers of `try_enqueue`, the bounded queue,
and `run_worker`, which batches what it receives. The atomics of `OverflowState` are read and
written one at a time, so that any other step can come in between. Frames of the durable spool are
not refused by the queue (`enqueue_spooled` waits), and are not on the queue of a connection
without a spool; metrics and logging are left out.
-/

namespace ServerRS.Ingestion

/-- `IngestionConfig`: what the worker uses of it. -/
structure IngestionConfig where
  queueCapacity : ℕ
  batchSize : ℕ

structure OverflowState where
  droppedCount : UInt64 := 0
  gapPersisted : Bool := false
deriving DecidableEq

/-- Where the worker is in `persist_overflow_gap`. -/
inductive GapStage where
  /-- `gap_needs_persistence` loads the counter. -/
  | loadCount
  /-- `gap_needs_persistence` loads the flag. -/
  | loadFlag
  /-- `mark_connection_uncertain` is called. -/
  | calling
  /-- It has succeeded; the flag is set next. -/
  | marking
deriving DecidableEq

/-- Where `process_batch_with_retry` returns to. -/
inductive Caller where
  | loop
  | drain
  | last
deriving DecidableEq

variable (M : Type)

/-- Where the worker is in `run_worker`, or where it goes on after `persist_overflow_gap`. -/
inductive WorkerStage where
  /-- `receiver.recv()`, with nothing in the batch. -/
  | receive
  | fill (batch : List M)
  /-- `queue.pop_front()`. -/
  | batches (caller : Caller) (queue : List (List M))
  /-- `insert_messages_if_absent`, and the sub-batches that are left. -/
  | insert (caller : Caller) (current : List M) (queue : List (List M))
  | drain (drained : List M)
  | ended
deriving DecidableEq

structure State where
  overflow : OverflowState := {}
  /-- The messages on the channel. -/
  queue : List M := []
  /-- The last sender is gone. -/
  closed : Bool := false
  /-- The calls of `try_enqueue` whose message did not fit, and which have yet to clear the flag. -/
  clearing : List ℕ := []
  /-- Those that have yet to count the message. -/
  counting : List ℕ := []
  gap : Option GapStage := some .loadCount
  worker : WorkerStage M := .receive
deriving DecidableEq

inductive Move where
  | send (message : M)
  /-- `try_send` fails with `Full`: the message of the call is dropped. -/
  | refuse (call : ℕ)
  /-- `record_drop` stores the flag. -/
  | clear (call : ℕ)
  /-- `record_drop` adds to the counter. -/
  | count (call : ℕ)
  /-- The last sender is dropped, and with it no call of `try_enqueue` is running. -/
  | close
  /-- The worker's next load in `gap_needs_persistence`. -/
  | look
  /-- `mark_connection_uncertain` takes effect, or fails. -/
  | uncertain (answer : Except InboundEventStoreError Unit)
  /-- `mark_gap_persisted`. -/
  | mark
  /-- The worker receives a message. -/
  | take
  /-- The worker receives no more: the channel is closed or empty, the batch is full or late. -/
  | stop
  /-- The next sub-batch. -/
  | next
  | inserted (answer : Except InboundEventStoreError Unit)
deriving DecidableEq

variable {M}

namespace State

/-- The worker has returned. -/
def finished (s : State M) : Bool := s.gap.isNone && s.worker matches .ended

/-- `process_batch_with_retry`, called with a batch. -/
def processBatch (s : State M) (caller : Caller) (batch : List M) : State M :=
  { s with worker := .batches caller [batch] }

/-- `persist_overflow_gap` is called; `worker` goes on after it. -/
def persistOverflowGap (s : State M) (worker : WorkerStage M) : State M :=
  { s with gap := some .loadCount, worker }

/-- `process_batch_with_retry` returns. -/
def returnTo (s : State M) : Caller → State M
  | .loop => s.persistOverflowGap .receive
  | .drain => { s with worker := .drain [] }
  | .last => s.persistOverflowGap .ended

/-- A load of `gap_needs_persistence`. -/
def look (s : State M) : GapStage → Option (State M)
  | .loadCount => some { s with gap := if 0 < s.overflow.droppedCount then some .loadFlag else none }
  | .loadFlag => some { s with gap := if s.overflow.gapPersisted then none else some .calling }
  | _ => none

/-- The worker receives a message. -/
def take (config : IngestionConfig) (s : State M) : Option (State M) :=
  match s.queue, s.worker with
  | message :: queue, .receive => some { s with queue, worker := .fill [message] }
  | message :: queue, .fill batch =>
    if batch.length < config.batchSize then
      some { s with queue, worker := .fill (batch ++ [message]) }
    else none
  | message :: queue, .drain drained =>
    let drained := drained ++ [message]
    if config.batchSize ≤ drained.length then some ({ s with queue }.processBatch .drain drained)
    else some { s with queue, worker := .drain drained }
  | _, _ => none

/-- The worker goes on without another message. -/
def stop (s : State M) : Option (State M) :=
  match s.worker with
  | .receive => if s.queue = [] ∧ s.closed then some { s with worker := .drain [] } else none
  | .fill batch => some (s.processBatch .loop batch)
  | .drain drained =>
    if s.queue ≠ [] then none
    else if drained = [] then some (s.persistOverflowGap .ended)
    else some (s.processBatch .last drained)
  | _ => none

/-- The loop of `process_batch_with_retry` over its sub-batches. -/
def next (s : State M) : Option (State M) :=
  match s.worker with
  | .batches caller [] => some (s.returnTo caller)
  | .batches caller ([] :: queue) => some { s with worker := .batches caller queue }
  | .batches caller (current :: queue) => some (s.persistOverflowGap (.insert caller current queue))
  | _ => none

/-- What `process_batch_with_retry` does with the answer to a sub-batch: a batch with an invalid
message is cut in two, until the message is alone. -/
def inserted (s : State M) (answer : Except InboundEventStoreError Unit) : Option (State M) :=
  match s.worker, answer with
  | .insert caller _ queue, .ok () => some { s with worker := .batches caller queue }
  | .insert caller current queue, .error (.invalidData _) =>
    if current.length = 1 then some { s with worker := .batches caller queue }
    else
      let mid := current.length / 2
      some { s with worker := .batches caller (current.take mid :: current.drop mid :: queue) }
  | .insert _ _ _, .error _ => some s
  | _, _ => none

/-- A move, where it is possible. -/
def step (config : IngestionConfig) (s : State M) : Move M → Option (State M)
  | .send message =>
    if s.closed = false ∧ s.finished = false ∧ s.queue.length < config.queueCapacity then
      some { s with queue := s.queue ++ [message] }
    else none
  | .refuse call =>
    if s.closed = false ∧ s.finished = false ∧ config.queueCapacity ≤ s.queue.length ∧
        call ∉ s.clearing ∧ call ∉ s.counting then
      some { s with clearing := call :: s.clearing }
    else none
  | .clear call =>
    if call ∈ s.clearing then
      some { s with
        overflow := { s.overflow with gapPersisted := false }
        clearing := s.clearing.erase call
        counting := call :: s.counting }
    else none
  | .count call =>
    if call ∈ s.counting then
      some { s with
        overflow := { s.overflow with droppedCount := s.overflow.droppedCount + 1 }
        counting := s.counting.erase call }
    else none
  | .close => if s.clearing = [] ∧ s.counting = [] then some { s with closed := true } else none
  | .look => s.gap.bind s.look
  | .uncertain answer =>
    if s.gap = some .calling then
      some { s with gap := if Except.isOk answer then some .marking else none }
    else none
  | .mark =>
    if s.gap = some .marking then
      some { s with overflow := { s.overflow with gapPersisted := true }, gap := none }
    else none
  | .take => if s.gap = none then s.take config else none
  | .stop => if s.gap = none then s.stop else none
  | .next => if s.gap = none then s.next else none
  | .inserted answer => if s.gap = none then s.inserted answer else none

end State

/-- The moves are a history of a connection, and lead to `s`. -/
def History (config : IngestionConfig) (moves : List (Move M)) (s : State M) : Prop :=
  moves.foldlM (State.step config) {} = some s

variable {config : IngestionConfig} {moves : List (Move M)} {move : Move M} {s : State M}

instance [DecidableEq M] : Decidable (History config moves s) := inferInstanceAs (Decidable (_ = _))

theorem history_snoc : History config (moves ++ [move]) s ↔
    ∃ s', History config moves s' ∧ s'.step config move = some s := by
  simp [History, List.foldlM_append, Option.bind_eq_some_iff]

end ServerRS.Ingestion

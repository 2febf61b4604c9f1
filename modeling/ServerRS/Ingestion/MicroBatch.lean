import Mathlib.Data.List.FinRange
import ServerRS.Backfill.Store
import ServerRS.Lib.Exec
import ServerRS.Lib.Loop

/-!
# A batch and its invalid messages

Models `process_batch_with_retry` of `ingestion_worker.rs` for a batch without frames of the spool:
the list of sub-batches, each a list of indexes of the batch; the retries; and the hooks, which are
fired for the answers of a sub-batch that was committed. The worker goes one call of
`insert_messages_if_absent` at a time, and writes down what it does.

What the worker shares with others is behind `Ports`, and every call may change it in any way. The
delays, the log lines, the health reporter and the metrics of times are left out.
-/

namespace ServerRS.Ingestion

open Lib
open Backfill (IngestionGapReason)

/-! ## What the worker uses -/

/-- The store, for one connection, the hooks, and the `OverflowState`. -/
structure Ports (W M : Type) where
  insertMessagesIfAbsent : List M → Exec W InboundEventStoreError (List IngestMessageOutcome)
  markConnectionUncertain : IngestionGapReason → Exec W InboundEventStoreError Unit
  firePostHooks : IngestMessageOutcome → M → Exec W Unit Unit
  gapNeedsPersistence : W → Bool
  markGapPersisted : W → W

structure IngestionMetrics where
  accepted : UInt64
  duplicates : UInt64
  invalid : UInt64
  retries : UInt64
  batchesCommitted : UInt64
  lastBatchSize : UInt64
  overflowPending : UInt64
  committed : UInt64
  commitLatencyCount : UInt64
deriving DecidableEq

def saturatingAdd (value amount : UInt64) : UInt64 :=
  if 2 ^ 64 ≤ value.toNat + amount.toNat then 18446744073709551615 else value + amount

def saturatingIncrement (value : UInt64) : UInt64 := saturatingAdd value 1

def isAccepted : IngestMessageOutcome → Bool
  | .accepted .. => true
  | .duplicate .. => false

def isDuplicate : IngestMessageOutcome → Bool
  | .accepted .. => false
  | .duplicate .. => true

namespace IngestionMetrics

/-- What `record_committed` does for one message. -/
def recordOne (metrics : IngestionMetrics) : IngestionMetrics :=
  { metrics with
    committed := saturatingIncrement metrics.committed
    commitLatencyCount := saturatingIncrement metrics.commitLatencyCount }

def recordCommitted {α : Type} (messages : List α) (metrics : IngestionMetrics) : IngestionMetrics :=
  messages.foldl (fun metrics _ => metrics.recordOne) metrics

/-- `fetch_add` wraps around. -/
def recordOutcomes (outcomes : List IngestMessageOutcome) (size : ℕ) (metrics : IngestionMetrics) :
    IngestionMetrics :=
  { metrics with
    accepted := metrics.accepted + UInt64.ofNat (outcomes.countP isAccepted)
    duplicates := metrics.duplicates + UInt64.ofNat (outcomes.countP isDuplicate)
    batchesCommitted := metrics.batchesCommitted + 1
    lastBatchSize := UInt64.ofNat size }

end IngestionMetrics

/-! ## The loop -/

/-- What the worker does with a batch of `n` messages. -/
inductive BatchEvent (n : ℕ) where
  /-- `mark_connection_uncertain` is called for dropped messages. -/
  | overflowGap
  /-- The sub-batch is inserted. -/
  | committed (indexes : List (Fin n)) (outcomes : List IngestMessageOutcome)
  /-- `fire_post_hooks` is called. -/
  | hook (index : Fin n) (outcome : IngestMessageOutcome)
  /-- `mark_connection_uncertain` is called for an invalid message. -/
  | invalidGap (index : Fin n)
  /-- The insertion failed, and is tried again. -/
  | retried (indexes : List (Fin n))
deriving DecidableEq

inductive BatchStage (n : ℕ) where
  /-- `queue.pop_front()`. -/
  | next (queue : List (List (Fin n)))
  /-- `insert_messages_if_absent` with the current sub-batch. -/
  | insert (current : List (Fin n)) (queue : List (List (Fin n)))
  | returned
  /-- An outcome beyond the end of the sub-batch. -/
  | panicked
deriving DecidableEq

structure BatchState (W : Type) (n : ℕ) where
  world : W
  metrics : IngestionMetrics
  stage : BatchStage n
  log : List (BatchEvent n)

variable {W M : Type} (ports : Ports W M) (batch : List M)

namespace BatchState

def start (world : W) (metrics : IngestionMetrics) : BatchState W batch.length where
  world
  metrics
  stage := .next [List.finRange batch.length]
  log := []

def persistOverflowGap {n : ℕ} (s : BatchState W n) : BatchState W n :=
  if ports.gapNeedsPersistence s.world then
    let called := ports.markConnectionUncertain .queueOverflow s.world
    match called.1 with
    | .ok _ =>
      let world := ports.markGapPersisted called.2
      { s with
        world
        metrics := { s.metrics with
          overflowPending := if ports.gapNeedsPersistence world then 1 else 0 }
        log := s.log ++ [.overflowGap] }
    | .error _ => { s with world := called.2, log := s.log ++ [.overflowGap] }
  else s

/-- The hooks of a sub-batch; what a hook answers is ignored. -/
def firePostHooks : List IngestMessageOutcome → List (Fin batch.length) →
    BatchState W batch.length → BatchState W batch.length
  | [], _, s => s
  | _ :: _, [], s => { s with stage := .panicked }
  | outcome :: outcomes, index :: indexes, s =>
    firePostHooks outcomes indexes { s with
      world := (ports.firePostHooks outcome (batch.get index) s.world).2
      log := s.log ++ [.hook index outcome] }

/-- The sub-batch is committed. -/
def commit (current : List (Fin batch.length)) (queue : List (List (Fin batch.length)))
    (outcomes : List IngestMessageOutcome) (world : W) (s : BatchState W batch.length) :
    BatchState W batch.length :=
  firePostHooks ports batch outcomes current
    { world
      metrics := (s.metrics.recordOutcomes outcomes current.length).recordCommitted current
      stage := .next queue
      log := s.log ++ [.committed current outcomes] }

/-- A single invalid message is left out. -/
def skip (index : Fin batch.length) (queue : List (List (Fin batch.length))) (world : W)
    (s : BatchState W batch.length) : BatchState W batch.length :=
  { world := (ports.markConnectionUncertain .invalidEvent world).2
    metrics := { s.metrics with invalid := s.metrics.invalid + 1 }
    stage := .next queue
    log := s.log ++ [.invalidGap index] }

/-- The left half comes first. -/
def split (current : List (Fin batch.length)) (queue : List (List (Fin batch.length))) (world : W)
    (s : BatchState W batch.length) : BatchState W batch.length :=
  { s with
    world
    stage := .next (current.take (current.length / 2) :: current.drop (current.length / 2) :: queue) }

def retry (current : List (Fin batch.length)) (world : W) (s : BatchState W batch.length) :
    BatchState W batch.length :=
  { s with
    world
    metrics := { s.metrics with retries := s.metrics.retries + 1 }
    log := s.log ++ [.retried current] }

def step (s : BatchState W batch.length) : BatchState W batch.length :=
  match s.stage with
  | .next [] => { s with stage := .returned }
  | .next ([] :: queue) => { s with stage := .next queue }
  | .next (current :: queue) => { s.persistOverflowGap ports with stage := .insert current queue }
  | .insert current queue =>
    let called := ports.insertMessagesIfAbsent (current.map batch.get) s.world
    match called.1, current with
    | .ok outcomes, current => s.commit ports batch current queue outcomes called.2
    | .error (.invalidData _), [index] => s.skip ports batch index queue called.2
    | .error (.invalidData _), current => s.split batch current queue called.2
    | .error _, current => s.retry batch current called.2
  | .returned => s
  | .panicked => s

end BatchState

/-- The batch is processed, and the worker is left in `final`. -/
def Processed (world : W) (metrics : IngestionMetrics) (final : BatchState W batch.length) : Prop :=
  ∃ n, (BatchState.step ports batch)^[n] (.start batch world metrics) = final ∧
    final.stage = .returned

/-! ## What is written down -/

section Log

variable {n : ℕ} (log : List (BatchEvent n))

def BatchEvent.indexes : BatchEvent n → List (Fin n)
  | .committed indexes _ => indexes
  | _ => []

def BatchEvent.answers : BatchEvent n → List (Fin n × IngestMessageOutcome)
  | .committed indexes outcomes => indexes.zip outcomes
  | _ => []

def BatchEvent.hooked : BatchEvent n → Option (Fin n × IngestMessageOutcome)
  | .hook index outcome => some (index, outcome)
  | _ => none

def BatchEvent.skipped : BatchEvent n → Option (Fin n)
  | .invalidGap index => some index
  | _ => none

/-- The messages of the committed calls, one call after the other. -/
def committed : List (Fin n) := log.flatMap BatchEvent.indexes

def answered : List (Fin n × IngestMessageOutcome) := log.flatMap BatchEvent.answers

def hooked : List (Fin n × IngestMessageOutcome) := log.filterMap BatchEvent.hooked

def skipped : List (Fin n) := log.filterMap BatchEvent.skipped

/-- Hooks are fired for messages that were committed before, with their answers. -/
def HooksAfter : Prop :=
  ∀ earlier later index outcome, log = earlier ++ .hook index outcome :: later →
    (index, outcome) ∈ answered earlier

end Log

/-- All messages of the batch but the invalid ones are committed once, in order; every invalid one is
left out after one gap; the hooks of a message are fired once, after its commit and with its answer;
and the counters, as far as they go, have counted this. -/
structure Isolated (valid : M → Bool) (before : IngestionMetrics)
    (final : BatchState W batch.length) : Prop where
  commits : committed final.log = (List.finRange batch.length).filter fun i => valid (batch.get i)
  skips : skipped final.log = (List.finRange batch.length).filter fun i => !valid (batch.get i)
  hooks : hooked final.log = answered final.log
  answers : (answered final.log).map Prod.fst = committed final.log
  hooksAfter : HooksAfter final.log
  countAccepted : final.metrics.accepted.toNat = (before.accepted.toNat +
    (answered final.log).countP fun answer => isAccepted answer.2) % 2 ^ 64
  countDuplicates : final.metrics.duplicates.toNat = (before.duplicates.toNat +
    (answered final.log).countP fun answer => isDuplicate answer.2) % 2 ^ 64
  countInvalid : final.metrics.invalid.toNat =
    (before.invalid.toNat + (skipped final.log).length) % 2 ^ 64
  countCommitted : final.metrics.committed.toNat =
    min (before.committed.toNat + (committed final.log).length) (2 ^ 64 - 1)

/-! ## The store -/

/-- Neither an answer nor a refusal. -/
def Transient {α : Type} : Except InboundEventStoreError α → Prop
  | .ok _ => False
  | .error (.invalidData _) => False
  | .error _ => True

/-- The store inserts all messages of a batch or none, refuses exactly the batches with an invalid
message, and fails only finitely many times before it answers. -/
structure Poisonable (valid : M → Bool) : Prop where
  inserted : ∀ messages world outcomes world',
    ports.insertMessagesIfAbsent messages world = (.ok outcomes, world') →
      (∀ message ∈ messages, valid message = true) ∧ outcomes.length = messages.length
  refused : ∀ messages world text world',
    ports.insertMessagesIfAbsent messages world = (.error (.invalidData text), world') →
      ∃ message ∈ messages, valid message = false
  answers : ∀ messages world,
    Eventually (fun world => (ports.insertMessagesIfAbsent messages world).2)
      (fun world => ¬Transient (ports.insertMessagesIfAbsent messages world).1) world

end ServerRS.Ingestion

import ServerRS.Continuity.Store

/-!
# Losses and what stands for them

Connections begin, end and report what they could not take, processes crash and are started again, and
backfill workers claim gaps and finalise their runs, in any order. What is ghost keeps the losses that
have been recorded, which of them a run was claimed after and reads, and which of them are settled. A
crash is not a call: it shows when a connection begins while an epoch is still open.
-/

namespace ServerRS.Continuity

open Lib Backfill

/-! ## Calls -/

/-- A call, with the clock that it reads and the identifiers that it draws. -/
inductive ContinuityCall where
  | beginConnection (account : SourceAccountRef) (newAccountId : ℕ) (epochId : String)
  | markConnectionConnected (epochId : String) (now : DateTime)
  | finishConnection (epochId : String) (reason : ConnectionEndReason) (gapId : String)
      (now : DateTime)
  | markConnectionUncertain (epochId : String) (reason : IngestionGapReason)
      (conversation : Option ConversationRef) (gapId : String) (newConversationId : ℕ)
      (now : DateTime)
  | finalizeRecoveredConnectedEpoch (epochId : String) (claimed : Bool) (gapId : String)
      (now : DateTime)
  | finishLegacyConnectingWithoutFrames (epochId : String) (claimed : Bool) (now : DateTime)
  /-- A backfill worker claims, records or finalises. -/
  | worker (call : BackfillCall) (ofWorker : ∀ outside, call ≠ .elsewhere outside)
  /-- Messages are ingested. -/
  | ingest (accounts : List AccountRow) (conversations : List ConversationRow)
      (cursors : List CursorRow)

def ContinuityDb.commit {α : Type} (db : ContinuityDb)
    (result : Except InboundEventStoreError (α × ContinuityDb)) : ContinuityDb :=
  (result.toOption.map Prod.snd).getD db

def ContinuityDb.step (db : ContinuityDb) : ContinuityCall → ContinuityDb
  | .beginConnection account newAccountId epochId =>
    db.commit (Continuity.beginConnection account newAccountId epochId db)
  | .markConnectionConnected epochId now => db.commit (Continuity.markConnectionConnected epochId now db)
  | .finishConnection epochId reason gapId now =>
    db.commit (Continuity.finishConnection epochId reason gapId now db)
  | .markConnectionUncertain epochId reason conversation gapId newConversationId now =>
    db.commit (Continuity.markConnectionUncertain epochId reason conversation gapId newConversationId
      now db)
  | .finalizeRecoveredConnectedEpoch epochId claimed gapId now =>
    db.commit (Continuity.finalizeRecoveredConnectedEpoch epochId claimed gapId now db)
  | .finishLegacyConnectingWithoutFrames epochId claimed now =>
    db.commit (Continuity.finishLegacyConnectingWithoutFrames epochId claimed now db)
  | .worker call _ => { db with backfill := Backfill.step db.backfill call }
  | .ingest accounts conversations cursors =>
    { db with
      backfill := { db.backfill with accounts, conversations }
      cursors }

/-! ## Losses -/

/-- Something that an epoch has not taken: all that came to the account, or what a signal was about. -/
structure Loss where
  epochId : String
  accountWide : Bool
  conversations : List ℕ
deriving DecidableEq

/-- The conversations of the account that have a cursor. -/
def cursorConversations (accountId : ℕ) (db : ContinuityDb) : List ℕ :=
  (cursorBoundaries "" accountId db).map BoundaryRow.conversationId

def accountLoss (epoch : EpochRow) (db : ContinuityDb) : Loss :=
  ⟨epoch.connectionEpochId, true, cursorConversations epoch.accountId db⟩

/-- The epochs that a process has left behind: they are connected, and the account connects again. -/
def leftBehind (accountId : ℕ) (left : List String) (db : ContinuityDb) : List EpochRow :=
  db.epochs.filter fun epoch => epoch.accountId = accountId && epoch.status = .connected &&
    epoch.endedAt.isNone && epoch.connectionEpochId ∉ left

/-- What the committed call records; an epoch in `left` has been recorded as left behind before. -/
def recordedLosses (left : List String) (db : ContinuityDb) : ContinuityCall → List Loss
  | .beginConnection account newAccountId epochId =>
    if (beginConnection account newAccountId epochId db).isOk then
      (leftBehind (ensureAccountRef account newAccountId db).1 left db).map (accountLoss · db)
    else []
  | .finishConnection epochId reason gapId now =>
    match db.findEpoch epochId with
    | .error _ => []
    | .ok epoch =>
      if epoch.endedAt.isNone && epoch.connectedAt.isSome &&
          (finishConnection epochId reason gapId now db).isOk then [accountLoss epoch db]
      else []
  | .markConnectionUncertain epochId reason conversation gapId newConversationId now =>
    match connectedEpoch epochId db with
    | .error _ => []
    | .ok epoch =>
      if (markConnectionUncertain epochId reason conversation gapId newConversationId now db).isOk then
        match conversation with
        | none => [accountLoss epoch db]
        | some conversation => [⟨epoch.connectionEpochId, false,
            [(ensureConversationRef epoch.accountId conversation newConversationId db).1]⟩]
      else []
  | .finalizeRecoveredConnectedEpoch epochId claimed gapId now =>
    match verifyClaim epochId claimed db with
    | .error _ => []
    | .ok epoch =>
      if (finalizeRecoveredConnectedEpoch epochId claimed gapId now db).isOk then [accountLoss epoch db]
      else []
  | _ => []

/-! ## Runs that read a loss -/

/-- The gap of the loss. -/
def isGapOf (loss : Loss) (gap : GapRow) : Bool := gap.connectionEpochId = loss.epochId

/-- A run of the gap that begins now reads what was lost. -/
def reads (gap : GapRow) (loss : Loss) (db : ContinuityDb) : Bool :=
  (!loss.accountWide || gap.gapEndedAt.isSome) &&
    loss.conversations.all fun conversation => conversation ∈ knownScopesForGap gap db

/-- The run that the call begins, with its gap. A run that is only adopted keeps the scopes that it has
verified before, so it may not read what was lost since it began. -/
def claimedRun (db : BackfillDb) : BackfillCall → Option (String × String)
  | .claimNextGap leaseSecs new now =>
    ((claimNextGap leaseSecs new now db).toOption.bind Prod.fst).map fun claim =>
      (claim.runId, claim.gapId)
  | _ => none

/-- The call moves a run and its gap out of `backfilling`. -/
def isFinalizing (outcome : RunOutcome) (leaseToken : String) (now : DateTime) (db : BackfillDb) :
    Bool :=
  (finalizeRun outcome leaseToken now db).isOk &&
    db.runs.any fun run => run.backfillRunId = outcome.runId && run.status = .backfilling

/-- The gap is not scheduled to be claimed again. -/
def endsRetries (outcome : RunOutcome) : Bool := outcome.reclaimPolicy ≠ .backoff 30

def verifies (outcome : RunOutcome) : Bool :=
  outcome.completeness = .provenComplete || outcome.completeness = .knownScopesComplete

/-- The tables, and what has happened: the losses in the order in which they were recorded, the epochs
that were left behind, which run reads which loss, and the losses that are settled. -/
structure Ledger where
  db : ContinuityDb
  losses : List Loss
  left : List String
  taken : List (String × ℕ)
  settled : List ℕ

namespace Ledger

variable (world : Ledger)

/-- The losses that the gap stands for, by number. -/
def onGap (gapId : String) : List ℕ :=
  (List.range world.losses.length).filter fun n => world.losses[n]?.any fun loss =>
    world.db.gaps.any fun gap => gap.gapId = gapId && isGapOf loss gap

/-- A run that begins was claimed after the losses so far. -/
def takes : ContinuityCall → List (String × ℕ)
  | .worker call _ => (claimedRun world.db.backfill call).toList.flatMap fun claim =>
    ((world.onGap claim.2).filter fun n => world.losses[n]?.any fun loss =>
      world.db.gaps.any fun gap => gap.gapId = claim.2 && reads gap loss world.db).map fun n =>
        (claim.1, n)
  | _ => []

/-- A run that verifies settles the losses that it reads, and a gap that is given up all that it stands
for. -/
def settles : ContinuityCall → List ℕ
  | .worker (.finalizeRun outcome leaseToken now) _ =>
    if isFinalizing outcome leaseToken now world.db.backfill then
      (world.onGap outcome.gapId).filter fun n => outcome.completeness = .unrecoverable ||
        (verifies outcome && (outcome.runId, n) ∈ world.taken)
    else []
  | _ => []

/-- The epochs that the call finds left behind. -/
def finds (call : ContinuityCall) : List String :=
  match call with
  | .beginConnection .. => (recordedLosses world.left world.db call).map Loss.epochId
  | _ => []

def step (call : ContinuityCall) : Ledger where
  db := world.db.step call
  losses := world.losses ++ recordedLosses world.left world.db call
  left := world.left ++ world.finds call
  taken := world.taken ++ world.takes call
  settled := world.settled ++ world.settles call

/-- The migration leaves the tables empty. -/
def start : Ledger := ⟨⟨⟨[], [], [], [], [], [], [], []⟩, [], [], []⟩, [], [], [], []⟩

def run (calls : List ContinuityCall) : Ledger := calls.foldl step start

theorem run_snoc {calls : List ContinuityCall} {call : ContinuityCall} :
    run (calls ++ [call]) = (run calls).step call :=
  List.foldl_append

end Ledger

/-! ## The property and its condition -/

def isSuspended (gapId : String) (db : ContinuityDb) : Bool :=
  db.backfill.schedule.any fun row =>
    row.gapId = gapId && row.nextEligibleAt.any fun at' => SUSPENDED_UNTIL ≤ at'

/-- The gap is open, being backfilled, or scheduled to be claimed again. -/
def awaits (gap : GapRow) (db : ContinuityDb) : Bool :=
  gap.status = .backfilling || (gap.status = .uncertain && !isSuspended gap.gapId db)

def hasBoundary (gapId : String) (conversation : ℕ) (db : ContinuityDb) : Bool :=
  db.boundaries.any fun row => row.gapId = gapId && row.conversationId = conversation

/-- A gap with boundaries for all that was lost stands for the loss, unless the loss is settled: by a run
that was claimed after it and read it, or because the gap was given up after it. -/
def Standing (world : Ledger) (n : ℕ) (loss : Loss) : Prop :=
  ∃ gap ∈ world.db.gaps, gap.connectionEpochId = loss.epochId ∧
    (∀ conversation ∈ loss.conversations, hasBoundary gap.gapId conversation world.db = true) ∧
      (n ∈ world.settled ∨ awaits gap world.db = true)

def AllStanding (world : Ledger) : Prop :=
  ∀ n loss, world.losses[n]? = some loss → Standing world n loss

/-- The step absorbs no loss. -/
structure Meets (world : Ledger) (call : ContinuityCall) : Prop where
  /-- An epoch on which a loss is recorded has no gap yet, or its gap still awaits a run and has a
  boundary for every conversation that has a cursor. -/
  ready : ∀ loss ∈ recordedLosses world.left world.db call, ∀ gap ∈ world.db.gaps,
    gap.connectionEpochId = loss.epochId → awaits gap world.db = true ∧
      (loss.accountWide = true →
        ∀ conversation ∈ loss.conversations, hasBoundary gap.gapId conversation world.db = true)
  /-- An epoch that was left behind has a gap before its account connects again. -/
  recovered : ∀ account newAccountId epochId, call = .beginConnection account newAccountId epochId →
    ∀ loss ∈ recordedLosses world.left world.db call,
      ∃ gap ∈ world.db.gaps, gap.connectionEpochId = loss.epochId
  /-- A run that ends the retries of its gap has verified it, and reads every loss that the gap stands
  for. -/
  read : ∀ outcome leaseToken now ofWorker,
    call = .worker (.finalizeRun outcome leaseToken now) ofWorker →
    isFinalizing outcome leaseToken now world.db.backfill = true →
    outcome.completeness ≠ .unrecoverable → endsRetries outcome = true → verifies outcome = true ∧
      ∀ n ∈ world.onGap outcome.gapId, (outcome.runId, n) ∈ world.taken

/-- The identifier of a gap that the call draws. -/
def ContinuityCall.newGapId : ContinuityCall → Option String
  | .finishConnection _ _ gapId _ => some gapId
  | .markConnectionUncertain _ _ _ gapId _ _ => some gapId
  | .finalizeRecoveredConnectedEpoch _ _ gapId _ => some gapId
  | _ => none

/-- What `Uuid::new_v4` and the clock give: an identifier that no gap has, and a time that is not at the
end of time. -/
structure Drawn (db : ContinuityDb) (call : ContinuityCall) : Prop where
  fresh : ∀ gapId, call.newGapId = some gapId → ∀ gap ∈ db.gaps, gap.gapId ≠ gapId
  clock : ∀ outcome leaseToken now ofWorker,
    call = .worker (.finalizeRun outcome leaseToken now) ofWorker → now + seconds 30 < SUSPENDED_UNTIL

end ServerRS.Continuity

import ServerRS.Lib.Process
import ServerRS.ActionStore.Statements
import ServerRS.ActionGraph.Nodes

/-!
# What an execution asks for

An execution of an action run is a process: it sends statements to the store, reads the
clock, and asks the ports of the effect executor to carry out an action. `perform` is what
one call does; the `Tick` that comes with it says what is decided outside the program: the
time, whether the store fails, and what the port answers.

A call to the store can fail before it has an effect, or after it was committed.
-/

namespace ServerRS.PlannerService

open Lib AgentCore ActionStore

/-- What `append_audit` is told. -/
inductive AuditDetail where
  | completed
  | suspended (checkpoint : CheckpointSummary)
  | resumed (approvalSourceEventId : Option SourceEventId)
deriving DecidableEq

/-- A call of an execution. -/
inductive Call where
  | clock
  | statement (statement : Statement)
  | readClaimed (token : ActionLeaseToken)
  | loadEffectReceipt (runId : ActionRunId) (effectId : String)
  | listSuspendedRuns (account : SourceAccountRef) (limit : UInt32)
  | appendAudit (runId : ActionRunId) (detail : AuditDetail)
  /-- An action is carried out by the port for its kind. -/
  | executeAction (action : SecretaryAction)
  /-- No call of the source: it marks that the graph has failed, and at which error. -/
  | graphFailed (runId : ActionRunId) (token : ActionLeaseToken) (cause : Option GraphRunError)

def Call.Answer : Call → Type
  | .clock => Timestamp
  | .statement _ => Except ActionStoreError ActionStore.Answer
  | .readClaimed _ => Except ActionStoreError ClaimedActionRun
  | .loadEffectReceipt _ _ => Except ActionStoreError (Option SecretaryActionReceipt)
  | .listSuspendedRuns _ _ => Except ActionStoreError (List SuspendedActionRun)
  | .appendAudit _ _ => Except ActionStoreError Unit
  | .executeAction _ => Except EffectError String
  | .graphFailed _ _ _ => Unit

/-- How a call to the store fails. -/
inductive Fault where
  /-- The call had no effect. -/
  | refused (error : ActionStoreError)
  /-- The call was committed, but its answer got lost. -/
  | lost (error : ActionStoreError)
deriving DecidableEq

/-- What comes with a call from outside. -/
structure Tick where
  now : Timestamp
  fault : Option Fault := none
  action : Except EffectError String := .ok ""

/-- A call to the store, under the fault of a tick. -/
def Tick.store {α : Type} (tick : Tick) (op : Tx α) : Tx α := fun db =>
  match tick.fault with
  | none => op db
  | some (.refused error) => (.error error, db)
  | some (.lost error) => (.error error, (op db).2)

section Perform

variable [ResponseFormat]

/-- What a call does. -/
def perform (tick : Tick) : (call : Call) → ActionDb → call.Answer × ActionDb
  | .clock => fun db => (tick.now, db)
  | .statement statement => tick.store statement.exec
  | .readClaimed token => tick.store (ActionStore.readClaimed token)
  | .loadEffectReceipt runId effectId => tick.store (ActionStore.loadEffectReceipt runId effectId)
  | .listSuspendedRuns account limit => tick.store (ActionStore.listSuspendedRuns account limit)
  | .appendAudit _ _ => tick.store (pure ())
  | .executeAction _ => fun db => (tick.action, db)
  | .graphFailed _ _ _ => fun db => ((), db)

end Perform

/-! ## The store, as an execution uses it -/

/-- A part of an execution that may fail. -/
abbrev Service (ε : Type) := ExceptT ε (Process Call Call.Answer)

namespace Service

variable {ε α : Type}

/-- A call that is answered with a `Result`. -/
def ask (call : Call) (h : call.Answer = Except ε α := by rfl) : Service ε α :=
  ExceptT.mk (h ▸ Process.ask call)

def clock : Service ε Timestamp := ExceptT.lift (Process.ask Call.clock)

def ofExcept (result : Except ε α) : Service ε α := ExceptT.mk (pure result)

def mapError {ε' : Type} (f : ε → ε') (x : Service ε α) : Service ε' α :=
  ExceptT.mk (Except.mapError f <$> x.run)

/-- The row that a claim got, where it got one. -/
def claimedRow (token : ActionLeaseToken) (answer : ActionStore.Answer) :
    Service ActionStoreError (Option ClaimedActionRun) :=
  if answer = .affected 1 then do
    let claimed ← ask (.readClaimed token)
    pure (some claimed)
  else pure none

/-- `chrono::Duration::seconds(i64::try_from(lease_secs)?)`. -/
def leaseMicros (leaseSecs : UInt64) : Except ActionStoreError Int :=
  if leaseSecs.toNat < 2 ^ 63 then .ok (leaseSecs.toNat * microsPerSec)
  else .error (.invalidData "lease_secs exceeds i64")

def claimPendingRun (workerId : String) (leaseSecs : UInt64) (token : ActionLeaseToken) :
    Service ActionStoreError (Option ClaimedActionRun) := do
  let now ← clock
  let _ ← ask (.statement (.reclaimExpired now))
  let lease ← ofExcept (leaseMicros leaseSecs)
  let answer ← ask (.statement (.claimOldest workerId (now + lease) now token))
  claimedRow token answer

def claimSuspendedRun (claim : SuspendedRunClaim) (token : ActionLeaseToken) :
    Service ActionStoreError (Option ClaimedActionRun) := do
  match fromTimestamp claim.nowUnixSecs with
  | none => throw (.invalidData "invalid resume claim timestamp")
  | some now => do
    let lease ← ofExcept (leaseMicros claim.leaseSecs)
    let answer ← ask (.statement (.claimSuspended claim (now + lease) now token))
    claimedRow token answer

/-- `self.clock.now_unix_secs()`. -/
def nowUnixSecs : Service ε Int := do
  let now ← clock
  pure (now.fdiv microsPerSec)

end Service

end ServerRS.PlannerService

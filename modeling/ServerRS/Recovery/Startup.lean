import ServerRS.Recovery.Replay

/-!
# Recovery before the first connection

Models `recover_realtime_spool_before_connect` of
`qqbot-server/src/runtime/realtime_spool_runtime.rs` with `fire_post_hooks`. It works on two
stores: the files of the spool, and the database behind the ports, which is a parameter that
answers as it likes. What was asked of the database is recorded as events.
-/

namespace ServerRS.Recovery

open Lib Spool

variable {M : Type} [SourceMessage M]

/-- What the recovery did to the database, in order. A write is recorded when it is called;
an answer that the recovery goes on with, when it is there. -/
inductive RecoveryEvent (M : Type) [SpoolMessage M] where
  | renewing (claim : ClaimedLegacyRealtimeSpoolEpoch)
  | inserting (frame : RecoveredRealtimeSpoolFrame M)
  | inserted (frame : RecoveredRealtimeSpoolFrame M) (outcome : IngestMessageOutcome)
  | firing (frame : RecoveredRealtimeSpoolFrame M) (hook : RealtimeSpoolHookKey)
  | converged (frame : RecoveredRealtimeSpoolFrame M) (hook : RealtimeSpoolHookKey)
  | finishing (claim : ClaimedLegacyRealtimeSpoolEpoch)
  | finalizing (claim : ClaimedLegacyRealtimeSpoolEpoch)

structure RecoveryWorld (M : Type) [SpoolMessage M] where
  disk : SpoolDisk
  events : List (RecoveryEvent M)

/-- What the calls of `claim_legacy_realtime_spool_epochs` answer: some batches, then an
empty one or an error. -/
structure ClaimAnswers where
  batches : List (List ClaimedLegacyRealtimeSpoolEpoch)
  failure : Option InboundEventStoreError

/-- The database and the use cases, and the nonces that the spool draws. Every answer may
depend on all that happened before. -/
structure RecoveryStores (M : Type) [SpoolMessage M] where
  claims : ClaimAnswers
  renew : RecoveryWorld M → ClaimedLegacyRealtimeSpoolEpoch → Except InboundEventStoreError Unit
  insertMessagesIfAbsent :
    RecoveryWorld M → List M → Except InboundEventStoreError (List IngestMessageOutcome)
  /-- `RecallUseCase::on_message_ingested`. -/
  onMessageIngested : RecoveryWorld M → RecallCorrelationKey → String → Except Unit Unit
  /-- `ArtifactEnvelope::new` and `ArtifactUseCase::create` for a segment. -/
  createArtifact : RecoveryWorld M → ArtifactId → M → Except Unit Unit
  finishConnecting :
    RecoveryWorld M → ClaimedLegacyRealtimeSpoolEpoch → Except InboundEventStoreError Unit
  finalizeConnected :
    RecoveryWorld M → ClaimedLegacyRealtimeSpoolEpoch → Except InboundEventStoreError Unit
  nonce : RecoveryWorld M → Nonce

abbrev RecoveryIo (M : Type) [SpoolMessage M] := Stepwise (RecoveryWorld M) RealtimeSpoolFatal

namespace RecoveryIo

/-- Record an event. -/
def note (event : RecoveryEvent M) : RecoveryIo M Unit :=
  .atomic fun world => { world with events := world.events ++ [event] }

/-- A call of a port; any error of it is fatal. -/
def ask {α ε : Type} (answer : RecoveryWorld M → Except ε α) : RecoveryIo M α := do
  let world ← .get
  .ofExcept ((answer world).mapError fun _ => ⟨.reconciliationFailed⟩)

def onSpool {α : Type} (call : SpoolIo α) : RecoveryIo M α :=
  (call.mapError fun error => ⟨error.kind⟩).zoom RecoveryWorld.disk
    fun disk world => { world with disk }

def fatal {α : Type} (kind : RealtimeSpoolFatalKind) : RecoveryIo M α := .throw ⟨kind⟩

end RecoveryIo

open RecoveryIo

/-! ## Hooks -/

section

variable (settings : HookSettings) (stores : RecoveryStores M)

def maybeApplyPendingRecall (frame : RecoveredRealtimeSpoolFrame M)
    (outcome : IngestMessageOutcome) : RecoveryIo M Unit :=
  if settings.recallEnabled then
    match correlationOf frame.message with
    | .error _ => fatal .reconciliationFailed
    | .ok correlation => do
      note (.firing frame (.recall correlation))
      ask fun world => stores.onMessageIngested world correlation outcome.sourceEventId.asStr
      note (.converged frame (.recall correlation))
  else pure ()

/-- The loop over the segments, here over the artifacts that they have. -/
def createArtifacts (frame : RecoveredRealtimeSpoolFrame M) : List ArtifactId → RecoveryIo M Unit
  | [] => pure ()
  | artifactId :: rest => do
    note (.firing frame (.artifact artifactId))
    ask fun world => stores.createArtifact world artifactId frame.message
    note (.converged frame (.artifact artifactId))
    createArtifacts frame rest

def maybeCreateArtifacts (frame : RecoveredRealtimeSpoolFrame M) (outcome : IngestMessageOutcome) :
    RecoveryIo M Unit :=
  if settings.artifactEnabled then
    createArtifacts stores frame (artifactsOf settings frame.message outcome)
  else pure ()

def firePostHooks (frame : RecoveredRealtimeSpoolFrame M) (outcome : IngestMessageOutcome) :
    RecoveryIo M Unit := do
  maybeApplyPendingRecall settings stores frame outcome
  maybeCreateArtifacts settings stores frame outcome

/-! ## The phases of the recovery -/

/-- The loop that claims epochs until the store has no more of them. -/
def claimEpochs : RecoveryIo M (List ClaimedLegacyRealtimeSpoolEpoch) :=
  match stores.claims.failure with
  | some _ => fatal .reconciliationFailed
  | none => pure stores.claims.batches.flatten

/-- The frames of a claimed epoch. -/
def ownedFrames (frames : List (RecoveredRealtimeSpoolFrame M))
    (claim : ClaimedLegacyRealtimeSpoolEpoch) : List (RecoveredRealtimeSpoolFrame M) :=
  frames.filter fun frame => frame.connectionEpochId = claim.epoch.connectionEpochId

def hasClaim (account : SourceAccountRef) (claims : List ClaimedLegacyRealtimeSpoolEpoch)
    (frame : RecoveredRealtimeSpoolFrame M) : Bool :=
  claims.any fun claim => claim.epoch.connectionEpochId = frame.connectionEpochId &&
    claim.epoch.account = account

/-- The checks before the first write. -/
def checkPlans (account : SourceAccountRef) (frames : List (RecoveredRealtimeSpoolFrame M))
    (claims : List ClaimedLegacyRealtimeSpoolEpoch) : RecoveryIo M Unit :=
  if frames.any fun frame => !hasClaim account claims frame then
    fatal .recoveryInvariantViolation
  else if claims.any fun claim =>
      (LegacyRealtimeSpoolRecoveryPlan.forClaim claim (ownedFrames frames claim)).isGlobalFailClosed then
    fatal .recoveryInvariantViolation
  else pure ()

variable (env : SpoolEnv M) (spool : RealtimeMessageSpool)

/-- One round of the loop over the frames. -/
def replayFrame (claims : List ClaimedLegacyRealtimeSpoolEpoch)
    (frame : RecoveredRealtimeSpoolFrame M) : RecoveryIo M Unit :=
  match claims.find? fun claim => claim.epoch.connectionEpochId = frame.connectionEpochId with
  | none => fatal .recoveryInvariantViolation
  | some claim => do
    note (.renewing claim)
    ask fun world => stores.renew world claim
    note (.inserting frame)
    let outcomes ← ask fun world => stores.insertMessagesIfAbsent world [frame.message]
    match outcomes with
    | [] => fatal .recoveryInvariantViolation
    | outcome :: _ => do
      note (.inserted frame outcome)
      let hooks ← .ofExcept (requiredHookKeys settings frame.message outcome)
      firePostHooks settings stores frame outcome
      let progress := convergedProgress frame outcome hooks
      let world ← .get
      onSpool (spool.advanceCheckpoint env (checkpointablePrefix frame.generationId [progress])
        (stores.nonce world))

def replayFrames (claims : List ClaimedLegacyRealtimeSpoolEpoch) :
    List (RecoveredRealtimeSpoolFrame M) → RecoveryIo M Unit
  | [] => pure ()
  | frame :: rest => do
    replayFrame settings stores env spool claims frame
    replayFrames claims rest

/-- The loop over the claimed epochs. -/
def finishEpochs : List ClaimedLegacyRealtimeSpoolEpoch → RecoveryIo M Unit
  | [] => pure ()
  | claim :: rest => do
    note (.renewing claim)
    ask fun world => stores.renew world claim
    match claim.epoch.status with
    | .connecting => do
      note (.finishing claim)
      ask fun world => stores.finishConnecting world claim
    | .connected => do
      note (.finalizing claim)
      ask fun world => stores.finalizeConnected world claim
    | _ => fatal .recoveryInvariantViolation
    finishEpochs rest

def recoverRealtimeSpoolBeforeConnect (account : SourceAccountRef) : RecoveryIo M Unit := do
  let frames ← onSpool (spool.recoverPending env)
  let claims ← claimEpochs stores
  checkPlans account frames claims
  replayFrames settings stores env spool claims frames
  finishEpochs stores claims

/-- A process opens the spool and recovers it. -/
def startupRecovery (generation : Uuid) (account : SourceAccountRef) : RecoveryIo M Unit := do
  let opened ← onSpool (RealtimeMessageSpool.open env generation)
  recoverRealtimeSpoolBeforeConnect settings stores env opened.spool account

end

end ServerRS.Recovery

import ServerRS.FollowUp.Scan

/-!
# The scheduler over time

The scans are repeated at one time, and between them the Owner completes, dismisses and snoozes.
The controls model `apply_dismiss`, `apply_snooze`, `apply_complete` with
`close_commitment_on_complete`, and the dismissal of a response expectation; one that is refused
changes nothing.
-/

namespace ServerRS.FollowUp

open Lib

inductive OwnerControl where
  | dismissFollowUp (accountId : Nat) (followUpId : Uuid) (expectedSourceVersion : Nat)
  | snoozeFollowUp (accountId : Nat) (followUpId : Uuid) (expectedSourceVersion : Nat)
      (snoozeUntilUnixSecs : Int)
  | completeFollowUp (accountId : Nat) (followUpId : Uuid) (expectedSourceVersion : Nat)
      (fulfilledFactId : Uuid)
  | dismissExpectation (accountId : Nat) (expectationId : Uuid) (expectedSourceVersion : Nat)
deriving DecidableEq

/-- `follow_up_id = ? AND account_id = ? AND status = 'scheduled' AND source_version = ?`. -/
def FollowUpItem.isTarget (accountId : Nat) (followUpId : Uuid) (expectedSourceVersion : Nat)
    (self : FollowUpItem) : Bool :=
  self.followUpId = followUpId && self.accountId = accountId && self.status = .scheduled &&
    self.sourceVersion = expectedSourceVersion

def MemoryFactRow.isSource (accountId : Nat) (factId : Uuid) (self : MemoryFactRow) : Bool :=
  self.factId = factId && self.accountId = accountId && self.factStatus = .confirmed

namespace Store

variable (clock : Nat) (s : Store)

def applyDismiss (accountId : Nat) (followUpId : Uuid) (expectedSourceVersion : Nat) : Store :=
  { s with
    followUps := updateWhere (FollowUpItem.isTarget accountId followUpId expectedSourceVersion)
      (.finish clock .dismissed) s.followUps }

/-- The new time is later than the present and than the due time, and within 365 days. -/
def applySnooze (now : Int) (accountId : Nat) (followUpId : Uuid) (expectedSourceVersion : Nat)
    (snoozeUntilUnixSecs : Int) : Store :=
  { s with
    followUps := updateWhere
      (fun item => item.isTarget accountId followUpId expectedSourceVersion &&
        decide (now < snoozeUntilUnixSecs ∧ snoozeUntilUnixSecs ≤ now + 31536000 ∧
          item.dueAtUnixSecs < snoozeUntilUnixSecs))
      (fun item => { item with
        dueAtUnixSecs := snoozeUntilUnixSecs
        sourceVersion := item.sourceVersion + 1
        updatedAt := clock })
      s.followUps }

def replaceFulfilled (accountId : Nat) (factId fulfilledFactId : Uuid) (due : Option Int) : Store :=
  { s with
    facts := updateWhere (MemoryFactRow.isSource accountId factId)
        (fun fact => { fact with factStatus := .superseded, updatedAt := clock }) s.facts ++
      [{ factId := fulfilledFactId, accountId, payload := .commitment due .fulfilled,
         factStatus := .confirmed, supersedesFactId := some factId, updatedAt := clock }] }

/-- `close_commitment_on_complete`; `none` is an error, which rolls the control back. -/
def closeCommitment (accountId : Nat) (factId fulfilledFactId : Uuid) : Option Store :=
  match s.facts.find? (MemoryFactRow.isSource accountId factId) with
  | some { payload := .commitment due .pending, .. } =>
    if s.facts.any (fun fact => fact.factId = fulfilledFactId) || s.hasSuccessor factId then none
    else some (s.replaceFulfilled clock accountId factId fulfilledFactId due)
  | some { payload := .commitment _ _, .. } => some s
  | _ => none

def applyComplete (accountId : Nat) (followUpId : Uuid) (expectedSourceVersion : Nat)
    (fulfilledFactId : Uuid) : Store :=
  match s.followUps.find? (FollowUpItem.isTarget accountId followUpId expectedSourceVersion) with
  | none => s
  | some item =>
    let closed := match item.reasonCode with
      | .commitmentDue => s.closeCommitment clock accountId item.sourceMemoryFactId fulfilledFactId
      | .projectBlocked => some s
    match closed with
    | none => s
    | some closed =>
      { closed with
        followUps := updateWhere (FollowUpItem.isTarget accountId followUpId expectedSourceVersion)
          (.finish clock .completed) closed.followUps }

def applyDismissExpectation (accountId : Nat) (expectationId : Uuid)
    (expectedSourceVersion : Nat) : Store :=
  { s with
    expectations := updateWhere
      (fun expectation => expectation.expectationId = expectationId &&
        expectation.accountId = accountId && expectation.expectationStatus = .active &&
        expectation.sourceVersion = expectedSourceVersion)
      (.finish clock .dismissed) s.expectations }

end Store

def OwnerControl.apply (clock : Nat) (now : Int) (s : Store) : OwnerControl → Store
  | .dismissFollowUp accountId followUpId version => s.applyDismiss clock accountId followUpId version
  | .snoozeFollowUp accountId followUpId version snoozeUntil =>
    s.applySnooze clock now accountId followUpId version snoozeUntil
  | .completeFollowUp accountId followUpId version fulfilledFactId =>
    s.applyComplete clock accountId followUpId version fulfilledFactId
  | .dismissExpectation accountId expectationId version =>
    s.applyDismissExpectation clock accountId expectationId version

def applyControls (clock : Nat) (now : Int) (controls : List OwnerControl) (s : Store) : Store :=
  controls.foldl (OwnerControl.apply clock now) s

/-- The three scans, as `FollowUpUseCase::scan` calls them: each commits for itself, and the first
error ends the round. -/
def scanAll (uuid : Purpose → Uuid) (clock : Nat) (params : ScanParams) (s : Store) : Store :=
  match scanCommitments uuid clock params s with
  | .error _ => s
  | .ok (s, _) =>
    match scanResponseExpectations uuid clock params s with
    | .error _ => s
    | .ok (s, _) =>
      match scanProjectBlockers uuid clock params s with
      | .error _ => s
      | .ok (s, _) => s

/-- What is not decided by the scheduler: the identifiers and the clock of each round, and the
controls that the Owner applies before it. -/
structure World where
  uuid : Nat → Purpose → Uuid
  clock : Nat → Nat
  owner : Nat → List OwnerControl

/-- The store before each round. -/
def run (params : ScanParams) (world : World) (s : Store) : Nat → Store
  | 0 => s
  | k + 1 => scanAll (world.uuid k) (world.clock k) params
      (applyControls (world.clock k) params.nowUnixSecs (world.owner k) (run params world s k))

/-! ## What the scheduler is for -/

/-- The bounds that each scan checks. -/
structure ScanParams.Valid (params : ScanParams) : Prop where
  horizon : 60 ≤ params.horizonSecs ∧ params.horizonSecs ≤ 31536000
  responseTimeout : 300 ≤ params.responseTimeoutSecs ∧ params.responseTimeoutSecs ≤ 2592000
  blockerEscalation : 3600 ≤ params.blockerEscalationSecs ∧ params.blockerEscalationSecs ≤ 31536000
  limit : 1 ≤ params.limit ∧ params.limit ≤ 1000

namespace Store

variable (s : Store)

def hasFollowUp (factId : Uuid) (reasonCode : ReasonCode) : Bool :=
  s.followUps.any fun item => item.sourceMemoryFactId = factId && item.reasonCode = reasonCode

def hasExpectation (questionId : Uuid) : Bool :=
  s.expectations.any fun expectation => expectation.sourceQuestionId = questionId

def hasCandidate (source : CandidateSource) : Bool :=
  s.candidates.any fun candidate => candidate.source = source

end Store

/-- Whatever is eligible gets its item and whatever is due its candidate, unless it ceases to be
so; nothing is made twice. -/
structure NoStarvation (params : ScanParams) (run : Nat → Store) : Prop where
  commitments : ∀ m, ∀ fact ∈ (run m).eligibleCommitments params.horizon, ∃ k ≥ m,
    (run k).hasFollowUp fact.factId .commitmentDue = true ∨
      fact ∉ (run k).eligibleCommitments params.horizon
  questions : ∀ m,
    ∀ question ∈ (run m).eligibleQuestions params.responseTimeoutSecs params.horizon, ∃ k ≥ m,
      (run k).hasExpectation question.questionId = true ∨
        question ∉ (run k).eligibleQuestions params.responseTimeoutSecs params.horizon
  projects : ∀ m,
    ∀ fact ∈ (run m).eligibleProjects params.blockerEscalationSecs params.horizon, ∃ k ≥ m,
      (run k).hasFollowUp fact.factId .projectBlocked = true ∨
        fact ∉ (run k).eligibleProjects params.blockerEscalationSecs params.horizon
  dueCommitments : ∀ m, ∀ item ∈ (run m).dueCommitments params.nowUnixSecs, ∃ k ≥ m,
    (run k).hasCandidate item.source = true ∨ item ∉ (run k).dueCommitments params.nowUnixSecs
  dueExpectations : ∀ m, ∀ item ∈ (run m).dueExpectations params.nowUnixSecs, ∃ k ≥ m,
    (run k).hasCandidate item.source = true ∨ item ∉ (run k).dueExpectations params.nowUnixSecs
  dueProjects : ∀ m, ∀ item ∈ (run m).dueProjects params.nowUnixSecs, ∃ k ≥ m,
    (run k).hasCandidate item.source = true ∨ item ∉ (run k).dueProjects params.nowUnixSecs
  unique : ∀ k, (run k).Keyed

end ServerRS.FollowUp

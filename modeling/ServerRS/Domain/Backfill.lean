import ServerRS.Domain.Inbound

/-!
# Backfill of a gap in the history

Models `personal-secretary/src/domain/backfill.rs`: scopes, cursors, pages, the progress of
a scope with its anomalies, and when the evidence counts as complete. Identities that are
only passed on (the run, the gap, the lease) are left out.
-/

namespace ServerRS.Backfill

/-! ## Scopes and pages -/

structure BackfillAnchor where
  messageId : String
  messageSeq : String
deriving DecidableEq

structure BackfillCursor where
  account : SourceAccountRef
  anchor : BackfillAnchor
deriving DecidableEq

/-- A conversation to be backfilled, down to the last message known before the gap. -/
structure BackfillScope where
  account : SourceAccountRef
  conversation : ConversationRef
  boundaryCursor : Option BackfillCursor
deriving DecidableEq

/-- `scope_key`, and `scope_key_of` of the use case. -/
def scopeKeyOf (conversation : ConversationRef) : String :=
  conversation.kind.asStr ++ ":" ++ conversation.id

def BackfillScope.scopeKey (scope : BackfillScope) : String := scopeKeyOf scope.conversation

structure KnownScope where
  conversation : ConversationRef
  boundaryCursor : Option BackfillCursor
deriving DecidableEq

structure BackfillHistoryItem where
  envelope : InboundMessageEnvelope
  anchor : BackfillAnchor
deriving DecidableEq

inductive BackfillContinuation where
  | next (cursor : BackfillCursor)
  | provenHistoryStart
  | unprovenStop
deriving DecidableEq

/-- A page, from its newest message to its oldest one. -/
structure BackfillPage where
  items : List BackfillHistoryItem
  continuation : BackfillContinuation

/-- The fields of `BackfillBudget` that a run reads, within the bounds of `validate`. -/
structure BackfillBudget where
  pageSize : ℕ
  maxPagesPerScope : ℕ
  maxEventsPerRun : ℕ
  earliestOccurredAtUnixSecs : Option Int
  pageSize_pos : 0 < pageSize
  pageSize_le : pageSize ≤ 100
  maxPages_pos : 0 < maxPagesPerScope
  maxPages_le : maxPagesPerScope ≤ 10000
  maxEvents_pos : 0 < maxEventsPerRun
  maxEvents_le : maxEventsPerRun ≤ 1000000

/-! ## Anomalies and progress -/

inductive BackfillAnomaly where
  | emptyPage
  | unprovenStop
  | duplicatePage
  | noCursorAdvance
  | cursorAccountMismatch
  | messageScopeMismatch
  | emptyAnchor
  | duplicateAnchor
  | invalidContinuation
  | anchorDisappeared
  | sortConflict
  | boundaryStateMismatch
  | boundaryNotFound
  | untrustedHistoryStart
  | untrustedPageOrder
  | protocolError (detail : String)
  | permissionDenied
  | budgetExhausted
  | configuredCutoffReached
deriving DecidableEq

def BackfillAnomaly.isUnrecoverable : BackfillAnomaly → Bool
  | .permissionDenied => true
  | _ => false

inductive BackfillScopeStatus where
  | pending
  | backfilling
  | verifiedComplete
  | unprovable
  | unrecoverable
deriving DecidableEq

structure ScopeProgress where
  conversation : ConversationRef
  status : BackfillScopeStatus
  lastCursor : Option BackfillCursor
  pagesRead : ℕ
  eventsRead : ℕ
  accepted : ℕ
  duplicates : ℕ
  reachedBoundary : Bool
  anomalies : List BackfillAnomaly
deriving DecidableEq

/-! ## Evidence -/

structure ScopeEvidence where
  scopeKey : String
  pagesRead : ℕ
  eventsRead : ℕ
  accepted : ℕ
  duplicates : ℕ
  reachedBoundary : Bool
  anomalies : List BackfillAnomaly
deriving DecidableEq

def ScopeEvidence.isComplete (evidence : ScopeEvidence) : Bool :=
  0 < evidence.pagesRead && evidence.reachedBoundary && evidence.anomalies.isEmpty

def ScopeEvidence.isUnrecoverable (evidence : ScopeEvidence) : Bool :=
  evidence.anomalies.any BackfillAnomaly.isUnrecoverable

structure BackfillEvidence where
  scopes : List ScopeEvidence
  accountConversationSetProven : Bool
  budgetExhausted : Bool
deriving DecidableEq

def BackfillEvidence.allScopesComplete (evidence : BackfillEvidence) : Bool :=
  !evidence.scopes.isEmpty && evidence.scopes.all ScopeEvidence.isComplete

def BackfillEvidence.anyUnrecoverable (evidence : BackfillEvidence) : Bool :=
  evidence.scopes.any ScopeEvidence.isUnrecoverable

inductive HistoryCompleteness where
  | provenComplete
  | knownScopesComplete
  | unprovable
  | unrecoverable
deriving DecidableEq

def HistoryCompleteness.fromEvidence (evidence : BackfillEvidence) : HistoryCompleteness :=
  if evidence.anyUnrecoverable then .unrecoverable
  else if evidence.budgetExhausted || !evidence.allScopesComplete then .unprovable
  else if evidence.accountConversationSetProven then .provenComplete
  else .knownScopesComplete

inductive IngestionGapStatus where
  | uncertain
  | backfilling
  | verifiedComplete
  | unrecoverable
deriving DecidableEq

def HistoryCompleteness.gapTargetStatus : HistoryCompleteness → IngestionGapStatus
  | .provenComplete => .verifiedComplete
  | .knownScopesComplete | .unprovable => .uncertain
  | .unrecoverable => .unrecoverable

inductive GapTransitionError where
  | illegal (source target : IngestionGapStatus)
  | unclaimedCannotComplete
deriving DecidableEq

def validateGapTransition (source target : IngestionGapStatus) : Except GapTransitionError Unit :=
  match source, target with
  | .uncertain, .backfilling => .ok ()
  | .backfilling, .verifiedComplete => .ok ()
  | .backfilling, .uncertain => .ok ()
  | .backfilling, .unrecoverable => .ok ()
  | .verifiedComplete, .verifiedComplete => .ok ()
  | .unrecoverable, .unrecoverable => .ok ()
  | .uncertain, .verifiedComplete => .error .unclaimedCannotComplete
  | .uncertain, .unrecoverable => .error .unclaimedCannotComplete
  | source, target => .error (.illegal source target)

structure BackfillOutcome where
  completeness : HistoryCompleteness
  evidence : BackfillEvidence
  gapTargetStatus : IngestionGapStatus
deriving DecidableEq

/-! ## Errors -/

inductive BackfillSourceError where
  | unavailable (text : String)
  | protocol (text : String)
  | permissionDenied
deriving DecidableEq

/-- `BackfillSourceError::to_string`. -/
def BackfillSourceError.text : BackfillSourceError → String
  | .unavailable text => "history source is unavailable: " ++ text
  | .protocol text => "history source protocol error: " ++ text
  | .permissionDenied => "history source permission denied for scope"

/-- The errors that end a run. A source error ends its scope only. -/
inductive BackfillError where
  | state (error : InboundEventStoreError)
  | illegalTransition (error : GapTransitionError)
deriving DecidableEq

/-! ## Scope keys -/

/-- Two conversations have different keys. -/
theorem scopeKeyOf_injective : Function.Injective scopeKeyOf := by
  rintro ⟨kind, id⟩ ⟨kind', id'⟩ h
  have hlist : kind.asStr.toList ++ ':' :: id.toList = kind'.asStr.toList ++ ':' :: id'.toList := by
    have htext := congrArg String.toList h
    simpa [scopeKeyOf, List.append_assoc] using htext
  cases kind <;> cases kind' <;> simp [ConversationKind.asStr] at hlist ⊢ <;>
    exact String.toList_inj.mp hlist

end ServerRS.Backfill

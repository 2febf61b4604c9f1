import Mathlib.Data.List.Sort
import Mathlib.Data.String.Basic
import ServerRS.Domain.Planner
import ServerRS.Lib.Exec
import ServerRS.Lib.Table

/-!
# The store of thread mutations

Models `personal-secretary/src/domain/thread_mutations.rs` and
`personal-secretary-mysql/src/repo/mysql_thread_mutations.rs` with the rows that they read and write.
A transaction is a function on the tables: it fails and changes nothing, or commits all its writes.
Times, the ids that `Uuid::new_v4` draws and the columns that nothing reads are left out.
-/

namespace ServerRS.ThreadMutation

open Lib

/-! ## Impacts -/

inductive ThreadMutationKind where
  | merge
  | split
deriving DecidableEq

inductive ThreadMutationProposalStatus where
  | awaitingApproval
  | approved
  | rejected
  | applying
  | applied
  | failed
  | unknownCommit
deriving DecidableEq

inductive ThreadMutationDecision where
  | approve
  | reject
deriving DecidableEq

def ThreadMutationDecision.desired : ThreadMutationDecision → ThreadMutationProposalStatus
  | .approve => .approved
  | .reject => .rejected

structure ThreadMutationImpactRequest where
  proposalId : String
  kind : ThreadMutationKind
  account : SourceAccountRef
  threadIds : List EventThreadId
  selectedSourceEventIds : List SourceEventId
  reason : String
deriving DecidableEq

structure ThreadMutationImpact where
  proposalId : String
  kind : ThreadMutationKind
  account : SourceAccountRef
  threadIds : List EventThreadId
  affectedEventCount : ℕ
  affectedConversationCount : ℕ
  affectedSourceEventIds : List SourceEventId
  reason : String
deriving DecidableEq

structure ThreadMutationEffectReceipt where
  proposalId : String
  effectId : String
  status : ThreadMutationProposalStatus
  changed : Bool
deriving DecidableEq

inductive ThreadMutationError where
  | invalidImpact (text : String)
deriving DecidableEq

def ThreadMutationError.toText : ThreadMutationError → String
  | .invalidImpact text => "invalid thread mutation impact: " ++ text

def requireImpact (condition : Prop) [Decidable condition] (text : String) :
    Except ThreadMutationError Unit :=
  if condition then .ok () else .error (.invalidImpact text)

/-- The number of threads of a mutation. -/
def checkThreadCount (impact : ThreadMutationImpact) : Except ThreadMutationError Unit :=
  match impact.kind with
  | .merge => requireImpact (2 ≤ impact.threadIds.length ∧ impact.threadIds.length ≤ 10)
      "merge preview must contain 2..=10 threads"
  | .split => requireImpact (impact.threadIds.length = 1)
      "split preview must contain exactly one source thread"

def validateThreadMutationImpact (impact : ThreadMutationImpact) :
    Except ThreadMutationError Unit := do
  checkThreadCount impact
  requireImpact (impact.affectedEventCount ≠ 0 ∧ impact.affectedConversationCount ≠ 0)
    "thread mutation must affect at least one event and conversation"
  requireImpact
    (impact.affectedSourceEventIds ≠ [] ∧ impact.affectedSourceEventIds.length ≤ 100)
    "impact preview must contain 1..=100 affected source events"
  requireImpact (impact.affectedEventCount = impact.affectedSourceEventIds.length)
    "affected_event_count must equal the exact affected source event id count"
  requireImpact (isBlank impact.reason = false ∧ impact.reason.length ≤ 1000)
    "impact reason must contain 1..=1000 characters"
  requireImpact (impact.threadIds.Nodup ∧ impact.affectedSourceEventIds.Nodup)
    "impact preview contains duplicate thread or source event ids"

/-! ## Rows -/

/-- `secretary_accounts`. -/
structure AccountRow where
  id : ℕ
  account : SourceAccountRef
deriving DecidableEq

/-- `secretary_event_threads`. -/
structure EventThreadRow where
  threadId : EventThreadId
  accountId : ℕ
  status : ThreadStatus
  rootEventId : SourceEventId
  latestEventId : SourceEventId
  openedAtUnixSecs : Int
  latestOccurredAtUnixSecs : Int
deriving DecidableEq

/-- `secretary_source_events`. -/
structure SourceEventRow where
  sourceEventId : SourceEventId
  accountId : ℕ
  conversationId : ℕ
  occurredAtUnixSecs : Int
  actorPlatformId : String
  actorKind : VerifiedActorKind
  messageRole : MessageRole
deriving DecidableEq

def SourceEventRow.byTime (row : SourceEventRow) : ℤ ×ₗ String :=
  row.sourceEventId.atTime row.occurredAtUnixSecs

/-- `secretary_thread_events`. -/
structure ThreadEventRow where
  sourceEventId : SourceEventId
  threadId : EventThreadId
deriving DecidableEq

/-- `secretary_owner_bindings`. -/
structure OwnerBindingRow where
  managedAccountId : ℕ
  commandAccountId : ℕ
  ownerActorId : String
  active : Bool
deriving DecidableEq

/-- `secretary_thread_mutation_proposals`. -/
structure ProposalRow where
  proposalId : String
  accountId : ℕ
  mutationKind : ThreadMutationKind
  proposalStatus : ThreadMutationProposalStatus
  impact : ThreadMutationImpact
  decision : Option ThreadMutationDecision
  commandSourceEventId : Option SourceEventId
  effectId : Option String
deriving DecidableEq

/-- `secretary_thread_merge_aliases`. -/
structure MergeAliasRow where
  mergedThreadId : EventThreadId
  canonicalThreadId : EventThreadId
  proposalId : String
  active : Bool
deriving DecidableEq

/-- `secretary_thread_split_overrides`. -/
structure SplitOverrideRow where
  sourceEventId : SourceEventId
  originalThreadId : EventThreadId
  effectiveThreadId : EventThreadId
  proposalId : String
  active : Bool
deriving DecidableEq

/-- `secretary_thread_link_hints`. -/
structure LinkHintRow where
  sourceEventId : SourceEventId
  threadId : EventThreadId
deriving DecidableEq

inductive LinkCandidateStatus where
  | proposed
  | accepted
  | rejected
  | expired
deriving DecidableEq

/-- `secretary_thread_link_candidates`, with its sources. -/
structure LinkCandidateRow where
  candidateId : String
  status : LinkCandidateStatus
  sources : List SourceEventId
deriving DecidableEq

inductive InvalidationKind where
  | mutationApplied
  | mutationReverted
deriving DecidableEq

/-- `secretary_thread_semantic_invalidations`. -/
structure InvalidationRow where
  proposalId : String
  threadId : EventThreadId
  kind : InvalidationKind
deriving DecidableEq

structure MutationDb where
  accounts : List AccountRow
  threads : List EventThreadRow
  events : List SourceEventRow
  threadEvents : List ThreadEventRow
  ownerBindings : List OwnerBindingRow
  proposals : List ProposalRow
  mergeAliases : List MergeAliasRow
  splitOverrides : List SplitOverrideRow
  linkHints : List LinkHintRow
  linkCandidates : List LinkCandidateRow
  invalidations : List InvalidationRow
  /-- The threads that have a row in `secretary_thread_semantic_state`. -/
  semanticState : List EventThreadId

abbrev Transaction (α : Type) := MutationDb → Except InboundEventStoreError (α × MutationDb)

def invalidData {α : Type} (text : String) : Except InboundEventStoreError α :=
  .error (.invalidData text)

/-- `store_error`. -/
def databaseFailed {α : Type} : Except InboundEventStoreError α :=
  .error (.database "database operation failed")

def requireData (condition : Prop) [Decidable condition] (text : String) :
    Except InboundEventStoreError Unit :=
  if condition then .ok () else invalidData text

def storeChecks {α : Type} (checked : Except ThreadMutationError α) :
    Except InboundEventStoreError α :=
  checked.mapError fun error => .invalidData error.toText

/-- A plain `INSERT`: a row that conflicts with one of the table fails. -/
def insertUnique {α : Type} (conflicts : α → α → Bool) (rows : List α) (row : α) :
    Except InboundEventStoreError (List α) :=
  if rows.any (conflicts row) then databaseFailed else .ok (rows ++ [row])

/-- An `UPDATE` that has to change a row. -/
def updateOne (cond : ProposalRow → Bool) (set : ProposalRow → ProposalRow)
    (rows : List ProposalRow) : Except InboundEventStoreError (List ProposalRow) :=
  if rows.any cond then .ok (updateWhere cond set rows) else .error .leaseLost

namespace MutationDb

def accountOf (db : MutationDb) (account : SourceAccountRef) : Except InboundEventStoreError ℕ :=
  match db.accounts.find? fun row => row.account = account with
  | some row => .ok row.id
  | none => invalidData "thread mutation account was not found"

def threadOf (db : MutationDb) (threadId : EventThreadId) : Option EventThreadRow :=
  db.threads.find? fun row => row.threadId = threadId

def proposalOf (db : MutationDb) (proposalId : String) : Option ProposalRow :=
  db.proposals.find? fun row => row.proposalId = proposalId

/-- The event and the thread that it is a member of. -/
def membership (db : MutationDb) (eventId : SourceEventId) :
    Option (SourceEventRow × EventThreadId) := do
  let event ← db.events.find? fun row => row.sourceEventId = eventId
  let member ← db.threadEvents.find? fun row => row.sourceEventId = eventId
  return (event, member.threadId)

/-- The events of a thread, oldest first. -/
def eventsOf (db : MutationDb) (threadId : EventThreadId) : List SourceEventRow :=
  (db.events.filter fun event => db.threadEvents.any fun member =>
    member.sourceEventId = event.sourceEventId && member.threadId = threadId).insertionSort
      fun a b => a.byTime ≤ b.byTime

/-- `secretary_effective_thread_events`. -/
def effectiveThread (db : MutationDb) (eventId : SourceEventId) : Option EventThreadId := do
  let member ← db.threadEvents.find? fun row => row.sourceEventId = eventId
  let split := db.splitOverrides.find? fun row => row.sourceEventId = eventId && row.active
  let merged := db.mergeAliases.find? fun row =>
    row.mergedThreadId = member.threadId && row.active
  return ((split.map SplitOverrideRow.effectiveThreadId).orElse fun _ =>
    merged.map MergeAliasRow.canonicalThreadId).getD member.threadId

end MutationDb

/-! ## Building an impact -/

def checkRequestedThreads (request : ThreadMutationImpactRequest) :
    Except InboundEventStoreError Unit :=
  match request.kind with
  | .merge => requireData (2 ≤ request.threadIds.length ∧ request.threadIds.length ≤ 10 ∧
        request.selectedSourceEventIds = [])
      "merge impact request must contain 2..=10 threads and no selected events"
  | .split => requireData (request.threadIds.length = 1 ∧ request.selectedSourceEventIds ≠ [] ∧
        request.selectedSourceEventIds.length ≤ 100)
      "split impact request must contain one thread and 1..=100 selected events"

def checkRequest (request : ThreadMutationImpactRequest) : Except InboundEventStoreError Unit := do
  checkRequestedThreads request
  requireData (request.threadIds.Nodup ∧ request.selectedSourceEventIds.Nodup)
    "thread mutation impact request contains duplicate ids"
  requireData (isBlank request.reason = false ∧ request.reason.length ≤ 1000)
    "thread mutation reason must contain 1..=1000 characters"

/-- The threads exist and belong to the account. -/
def checkThreads (missing : EventThreadId → String) (accountId : ℕ)
    (threadIds : List EventThreadId) (db : MutationDb) : Except InboundEventStoreError Unit :=
  threadIds.forM fun threadId =>
    match db.threadOf threadId with
    | none => invalidData (missing threadId)
    | some thread => requireData (thread.accountId = accountId)
        "thread mutation cannot cross managed accounts"

def splitEvent (accountId : ℕ) (sourceThread : Option EventThreadId) (db : MutationDb)
    (eventId : SourceEventId) : Except InboundEventStoreError SourceEventRow :=
  match db.membership eventId with
  | none => invalidData "split source event was not found in a thread"
  | some (event, threadId) =>
    if event.accountId ≠ accountId ∨ some threadId ≠ sourceThread then
      invalidData "split source event is outside the proposal account or thread"
    else .ok event

def impactEvents (request : ThreadMutationImpactRequest) (accountId : ℕ) (db : MutationDb) :
    Except InboundEventStoreError (List SourceEventRow) :=
  match request.kind with
  | .merge => .ok (request.threadIds.flatMap db.eventsOf)
  | .split => do
    let rows ← request.selectedSourceEventIds.mapM (splitEvent accountId request.threadIds.head? db)
    return rows.insertionSort fun a b => a.byTime ≤ b.byTime

def buildImpact (request : ThreadMutationImpactRequest) (db : MutationDb) :
    Except InboundEventStoreError ThreadMutationImpact := do
  checkRequest request
  let accountId ← db.accountOf request.account
  checkThreads (fun _ => "thread mutation thread was not found") accountId request.threadIds db
  let events ← impactEvents request accountId db
  requireData (events ≠ [] ∧ events.length ≤ 100) "thread mutation impact must contain 1..=100 events"
  requireData (∀ event ∈ events, event.accountId = accountId)
    "thread mutation event crossed managed account"
  let impact : ThreadMutationImpact := {
    proposalId := request.proposalId
    kind := request.kind
    account := request.account
    threadIds := request.threadIds
    affectedEventCount := events.length
    affectedConversationCount := (events.map SourceEventRow.conversationId).dedup.length
    affectedSourceEventIds := events.map SourceEventRow.sourceEventId
    reason := request.reason }
  storeChecks (validateThreadMutationImpact impact)
  return impact

/-! ## Persisting a proposal -/

def affectedConversation (impact : ThreadMutationImpact) (accountId : ℕ) (db : MutationDb)
    (eventId : SourceEventId) : Except InboundEventStoreError ℕ :=
  match db.membership eventId with
  | none => invalidData ("affected event " ++ eventId.asStr ++ " was not found in a thread")
  | some (event, threadId) =>
    if event.accountId ≠ accountId ∨ threadId ∉ impact.threadIds then
      invalidData "affected event is outside the proposal account or threads"
    else .ok event.conversationId

/-- A merge takes whole threads, and a split leaves something in its thread. -/
def checkExtent (impact : ThreadMutationImpact) (db : MutationDb) :
    Except InboundEventStoreError Unit :=
  let stored := (db.threadEvents.filter fun row => row.threadId ∈ impact.threadIds).map
    ThreadEventRow.sourceEventId
  match impact.kind with
  | .merge => requireData (stored ⊆ impact.affectedSourceEventIds ∧
        impact.affectedSourceEventIds ⊆ stored)
      "merge proposal must enumerate every event in every affected thread"
  | .split => requireData (impact.affectedSourceEventIds.length < stored.length)
      "split proposal must leave at least one event in the source thread"

/-- The checks of `persist_proposal`; the result is the account. -/
def checkProposal (impact : ThreadMutationImpact) (db : MutationDb) :
    Except InboundEventStoreError ℕ := do
  storeChecks (validateThreadMutationImpact impact)
  let accountId ← db.accountOf impact.account
  checkThreads (fun threadId => "thread " ++ threadId.asStr ++ " was not found") accountId
    impact.threadIds db
  let conversations ← impact.affectedSourceEventIds.mapM (affectedConversation impact accountId db)
  requireData (conversations.dedup.length = impact.affectedConversationCount)
    "affected_conversation_count does not match stored events"
  checkExtent impact db
  return accountId

def persistProposal (impact : ThreadMutationImpact) : Transaction Unit := fun db => do
  let accountId ← checkProposal impact db
  match db.proposalOf impact.proposalId with
  | none => return ((), { db with
      proposals := db.proposals ++ [{
        proposalId := impact.proposalId
        accountId
        mutationKind := impact.kind
        proposalStatus := .awaitingApproval
        impact
        decision := none
        commandSourceEventId := none
        effectId := none }] })
  | some existing =>
    requireData (existing.accountId = accountId ∧ existing.mutationKind = impact.kind ∧
        existing.impact = impact)
      "proposal_id already exists with different immutable impact"
    return ((), db)

/-! ## The decision of the owner -/

/-- The command is one that an owner bound to the account has sent. -/
def MutationDb.commands (db : MutationDb) (command : SourceEventId) (accountId : ℕ) : Bool :=
  db.events.any fun event => event.sourceEventId = command && event.messageRole = .ownerCommand &&
    event.actorKind = .owner &&
    (db.accounts.any fun account =>
      account.id = event.accountId && account.account.channel = .qqOpenPlatform) &&
    db.ownerBindings.any fun binding => binding.managedAccountId = accountId &&
      binding.commandAccountId = event.accountId &&
      binding.ownerActorId = event.actorPlatformId && binding.active

def authorizeResume (proposalId : String) (decision : ThreadMutationDecision)
    (command : SourceEventId) : Transaction ThreadMutationProposalStatus := fun db =>
  match (db.proposalOf proposalId).filter fun row => db.commands command row.accountId with
  | none => invalidData "proposal or authorized OwnerCommand was not found"
  | some row =>
    if row.proposalStatus = decision.desired ∧ row.decision = some decision ∧
        row.commandSourceEventId = some command then .ok (row.proposalStatus, db)
    else if row.proposalStatus ≠ .awaitingApproval then
      invalidData "thread mutation proposal has already consumed a different decision"
    else do
      let proposals ← updateOne
        (fun row => row.proposalId = proposalId && row.proposalStatus = .awaitingApproval)
        (fun row => { row with
          proposalStatus := decision.desired
          decision := some decision
          commandSourceEventId := some command }) db.proposals
      return (decision.desired, { db with proposals })

/-! ## The effect -/

def mergeConflicts (canonical merged : EventThreadId) (row : MergeAliasRow) : Bool :=
  row.active && (row.mergedThreadId = canonical || row.mergedThreadId = merged ||
    row.canonicalThreadId = merged)

def mergeThread (canonical : EventThreadId) (proposalId : String) (aliases : List MergeAliasRow)
    (merged : EventThreadId) : Except InboundEventStoreError (List MergeAliasRow) := do
  requireData (aliases.any (mergeConflicts canonical merged) = false)
    "merge would create an alias chain or overwrite an active alias"
  insertUnique (fun new row => new.mergedThreadId = row.mergedThreadId) aliases
    ⟨merged, canonical, proposalId, true⟩

def applyMerge (impact : ThreadMutationImpact) (db : MutationDb) :
    Except InboundEventStoreError MutationDb :=
  match impact.threadIds with
  | [] => .ok db
  | canonical :: merged => do
    let mergeAliases ← merged.foldlM (mergeThread canonical impact.proposalId) db.mergeAliases
    return { db with mergeAliases }

def splitMember (sourceThread : EventThreadId) (db : MutationDb) (eventId : SourceEventId) :
    Except InboundEventStoreError SourceEventRow :=
  match db.membership eventId with
  | none => invalidData "split event was not found"
  | some (event, threadId) =>
    if threadId ≠ sourceThread then
      invalidData "split event no longer belongs to the proposal source thread"
    else .ok event

/-- The new thread and the overrides of a split. -/
def splitOff (sourceThread : EventThreadId) (proposalId : String) (events : List SourceEventRow)
    (db : MutationDb) : Except InboundEventStoreError MutationDb :=
  match events.head?, events.getLast? with
  | some root, some latest => do
    let threads ← insertUnique (fun new row => new.threadId = row.threadId) db.threads {
      threadId := ⟨proposalId⟩
      accountId := root.accountId
      status := .«open»
      rootEventId := root.sourceEventId
      latestEventId := latest.sourceEventId
      openedAtUnixSecs := root.occurredAtUnixSecs
      latestOccurredAtUnixSecs := latest.occurredAtUnixSecs }
    let splitOverrides ← events.foldlM (fun overrides event =>
      insertUnique (fun new row => new.sourceEventId = row.sourceEventId) overrides
        ⟨event.sourceEventId, sourceThread, ⟨proposalId⟩, proposalId, true⟩) db.splitOverrides
    return { db with threads, splitOverrides }
  | _, _ => .ok db

def SourceEventRow.byConversation (row : SourceEventRow) : ℤ ×ₗ ℕ :=
  toLex (row.occurredAtUnixSecs, row.conversationId)

/-- `apply_split`; an impact without thread or event does not pass its check. -/
def applySplit (impact : ThreadMutationImpact) (db : MutationDb) :
    Except InboundEventStoreError MutationDb :=
  match impact.threadIds with
  | [] => .ok db
  | sourceThread :: _ => do
    requireData ((db.mergeAliases.any fun row => row.active && row.mergedThreadId = sourceThread) =
        false) "split source is an active merge alias; resolve the merge first"
    let rows ← impact.affectedSourceEventIds.mapM (splitMember sourceThread db)
    splitOff sourceThread impact.proposalId
      (rows.insertionSort fun a b => a.byConversation ≤ b.byConversation) db

def refreshLinkHintsAndCandidates (impact : ThreadMutationImpact) (db : MutationDb) : MutationDb :=
  impact.affectedSourceEventIds.foldl (fun db eventId => { db with
    linkHints := updateWhere (fun row => row.sourceEventId = eventId) (fun row =>
      { row with threadId := (db.effectiveThread eventId).getD row.threadId }) db.linkHints
    linkCandidates := updateWhere (fun row => row.sources.contains eventId && row.status = .proposed)
      (fun row => { row with status := .expired }) db.linkCandidates }) db

def recordSemanticInvalidations (kind : InvalidationKind) (impact : ThreadMutationImpact)
    (db : MutationDb) : MutationDb :=
  let threadIds : List EventThreadId := match impact.kind with
    | .merge => impact.threadIds
    | .split => impact.threadIds ++ [⟨impact.proposalId⟩]
  { db with
    invalidations := insertIgnore (fun new row => decide (new = row)) db.invalidations
      (threadIds.map fun threadId => InvalidationRow.mk impact.proposalId threadId kind)
    semanticState := db.semanticState.filter fun threadId => threadId ∉ threadIds }

/-- The overlay of an approved impact. -/
def applyOverlay (impact : ThreadMutationImpact) (db : MutationDb) :
    Except InboundEventStoreError MutationDb :=
  match impact.kind with
  | .merge => applyMerge impact db
  | .split => applySplit impact db

/-- `apply_effect`; the effect id is unique among the proposals. -/
def applyEffect (proposalId : String) (kind : ThreadMutationKind) (effectId : String) :
    Transaction ThreadMutationEffectReceipt := fun db => do
  requireData (isBlank effectId = false ∧ effectId.utf8ByteSize ≤ 255)
    "invalid thread mutation effect id"
  match db.proposalOf proposalId with
  | none => invalidData "thread mutation proposal was not found"
  | some row =>
    if row.proposalStatus = .applied ∧ row.effectId = some effectId then
      return (⟨proposalId, effectId, row.proposalStatus, false⟩, db)
    else do
      requireData (row.proposalStatus = .approved ∧ row.effectId = none)
        "thread mutation effect is not eligible for execution"
      requireData (row.mutationKind = kind) "effect kind does not match proposal"
      storeChecks (validateThreadMutationImpact row.impact)
      if db.proposals.any fun other => other.effectId = some effectId then databaseFailed
      else do
        let claimed ← updateOne (fun row => row.proposalId = proposalId &&
            row.proposalStatus = .approved && row.effectId = none)
          (fun row => { row with proposalStatus := .applying, effectId := some effectId })
          db.proposals
        let overlaid ← applyOverlay row.impact { db with proposals := claimed }
        let recorded := recordSemanticInvalidations .mutationApplied row.impact
          (refreshLinkHintsAndCandidates row.impact overlaid)
        let proposals ← updateOne (fun row => row.proposalId = proposalId &&
            row.proposalStatus = .applying && row.effectId = some effectId)
          (fun row => { row with proposalStatus := .applied }) recorded.proposals
        return (⟨proposalId, effectId, .applied, true⟩, { recorded with proposals })

end ServerRS.ThreadMutation

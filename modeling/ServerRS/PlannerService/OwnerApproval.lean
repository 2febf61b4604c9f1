import ServerRS.PlannerService.Inbox

/-!
# Decisions of the Owner

A message of the Owner decides on the one suspended run whose proposal it can mean when it is
handled. When no proposal that it could mean is suspended after it was sent, a message decides
on one proposal at most, however often it is delivered (`approvals_authorize_one`). Nothing in
the handler looks at when the message was sent, or whether it has been handled before: a message
that is delivered again decides on the proposal that is suspended by then
(`redelivered_approval_resumes_again`).
-/

namespace ServerRS.PlannerService

open Lib AgentCore ActionStore

/-! ## The suspended runs of an account -/

/-- The account of `list_suspended_runs` has this key. -/
def accountHasId (directory : Directory) (account : SourceAccountRef) (accountId : ℕ) : Bool :=
  directory.accounts.any fun a =>
    a.id == accountId && a.sourceChannel == account.channel &&
      a.platformAccountId == account.accountId

def suspendedOf (account : SourceAccountRef) (db : ActionDb) : List ActionRunRow :=
  db.runs.filter fun row =>
    row.status == .suspended && accountHasId db.directory account row.accountId

/-- What `list_suspended_runs` shows of a row. -/
def candidateOf (row : ActionRunRow) : Option SuspendedActionRun :=
  row.lastCheckpoint.map fun checkpoint =>
    ⟨row.runId, checkpoint.checkpointId, checkpoint.proposalId, row.commandSourceEventId⟩

variable {account : SourceAccountRef}

theorem mem_suspendedOf {db : ActionDb} {row : ActionRunRow} :
    row ∈ suspendedOf account db ↔ row ∈ db.runs ∧ row.status = .suspended ∧
      accountHasId db.directory account row.accountId = true := by
  simp [suspendedOf]

/-- Where no more runs are suspended than the list can show, it shows all of them. -/
theorem mem_listed {db db' : ActionDb} {candidates : List SuspendedActionRun}
    (h : listSuspendedRuns account 100 db = (.ok candidates, db'))
    (hfew : (suspendedOf account db).length ≤ 100) {candidate : SuspendedActionRun} :
    candidate ∈ candidates ↔ ∃ row ∈ suspendedOf account db, candidateOf row = some candidate := by
  have hlist : listSuspendedRuns account 100 db = (.ok ((((suspendedOf account db).mergeSort
      ActionRunRow.listedBefore).filterMap candidateOf).take 100), db) := rfl
  rw [hlist] at h
  cases h
  have hlen : (((suspendedOf account db).mergeSort ActionRunRow.listedBefore).filterMap
      candidateOf).length ≤ 100 := by
    refine le_trans (List.length_filterMap_le _ _) ?_
    rwa [List.length_mergeSort]
  rw [List.take_of_length_le hlen, List.mem_filterMap]
  simp only [List.mem_mergeSort]

/-! ## Histories with messages -/

section Messages

variable [ActionGraph.ActionFormat] [UuidFormat] [GraphErrorFormat]

/-- What can happen next. -/
inductive InboxMove where
  /-- The Owner sends the message that is admitted under the event. -/
  | send (event : SourceEventId)
  /-- A message is delivered, for the first time or again. -/
  | deliver (message : OwnerMessage) (token : ActionLeaseToken) (responseId : String)
  | other (move : Move)

variable (handler : OfficialInboundHandler)

def InboxMove.poolMoves : InboxMove → List (PoolMove Tick Call Call.Answer Unit)
  | .send _ => []
  | .deliver message token responseId => [.start (handler.handleMessage message token responseId)]
  | .other move => [move.poolMove]

/-- The executions and the store after a history that starts with empty tables. -/
def inboxAfter (directory : Directory) (moves : List InboxMove) :
    Pool Tick Call Call.Answer Unit ActionDb :=
  Pool.after perform { directory } (moves.flatMap (·.poolMoves handler))

def inboxStatements (directory : Directory) (moves : List InboxMove) : List Statement :=
  (inboxAfter handler directory moves).trace.filterMap carriedOut

def InboxMove.token : InboxMove → Option ActionLeaseToken
  | .deliver _ token _ => some token
  | .other (.start (.runOnce _ _ token _)) => some token
  | .other (.start (.resumeRun _ _ _ _ token _)) => some token
  | _ => none

def InboxMove.tokenFor (event : SourceEventId) : InboxMove → Option ActionLeaseToken
  | .deliver message token _ => if message.event = event then some token else none
  | _ => none

def tokensOf (event : SourceEventId) (moves : List InboxMove) : List ActionLeaseToken :=
  moves.filterMap (·.tokenFor event)

/-! ## What is claimed of them -/

/-- A claim under one of the tokens takes effect, after the statements `before`. -/
def ResumedAt (directory : Directory) (tokens : List ActionLeaseToken)
    (statements before : List Statement) (claim : SuspendedRunClaim) : Prop :=
  ∃ leaseExpires now token after,
    statements = before ++ .claimSuspended claim leaseExpires now token :: after ∧ token ∈ tokens ∧
      ∃ row ∈ (dbAfter directory before).runs,
        claim.isFor (dbAfter directory before).directory row = true

/-- Each message decides on one proposal at most, which was suspended when it was sent, and is the
only one that it can mean. -/
structure ApprovalsAuthorizeOne (directory : Directory) (moves : List InboxMove) : Prop where
  once : ∀ event before claim before' claim',
    ResumedAt directory (tokensOf event moves) (inboxStatements handler directory moves) before claim →
      ResumedAt directory (tokensOf event moves) (inboxStatements handler directory moves) before'
        claim' → before = before'
  suspendedWhenSent : ∀ first event rest, moves = first ++ .send event :: rest →
    tokensOf event first = [] → ∀ before claim,
      ResumedAt directory (tokensOf event moves) (inboxStatements handler directory moves) before
        claim →
        ∃ row ∈ (inboxAfter handler directory first).state.runs, row.runId = claim.runId ∧
          row.status = .suspended ∧ ∃ checkpoint, row.lastCheckpoint = some checkpoint ∧
            checkpoint.checkpointId = claim.checkpointId ∧ checkpoint.proposalId = claim.proposalId
  onlyMatch : ∀ message token responseId, .deliver message token responseId ∈ moves →
    ∀ before claim, ResumedAt directory (tokensOf message.event moves)
      (inboxStatements handler directory moves) before claim →
        ∃ command, parseOwnerApprovalCommand message.envelope.normalizedText = some command ∧
          command.selects claim.proposalId = true ∧
          ∀ row ∈ suspendedOf handler.managedAccount (dbAfter directory before),
            ∀ checkpoint, row.lastCheckpoint = some checkpoint →
              command.selects checkpoint.proposalId = true → row.runId = claim.runId

/-- What the histories of a program are like: leases are drawn anew, an event has one message,
messages are sent before they are delivered, and the account keeps its key. -/
structure InboxHistory (directory : Directory) (moves : List InboxMove) : Prop where
  fresh : (moves.filterMap InboxMove.token).Nodup
  sameText : ∀ message token responseId message' token' responseId',
    .deliver message token responseId ∈ moves → .deliver message' token' responseId' ∈ moves →
      message.event = message'.event →
        message.envelope.normalizedText = message'.envelope.normalizedText
  sent : ∀ first message token responseId rest,
    moves = first ++ .deliver message token responseId :: rest → .send message.event ∈ first
  account : ∀ other, .other (.start (.elsewhere other)) ∈ moves → ∀ accountId,
    accountHasId other handler.managedAccount accountId =
      accountHasId directory handler.managedAccount accountId

/-- From the sending of a message to the claims that it makes, no proposal is suspended that it can
mean, and the list shows all suspended runs. -/
structure NothingNewToMean (directory : Directory) (moves : List InboxMove) : Prop where
  suspensions : ∀ first message rest, moves = first ++ .send message.event :: rest →
    ∀ token responseId, .deliver message token responseId ∈ moves →
      ∀ command, parseOwnerApprovalCommand message.envelope.normalizedText = some command →
        ∀ middle runId lease checkpoint now after,
          inboxStatements handler directory moves = inboxStatements handler directory first ++
            middle ++ .markSuspended runId lease checkpoint now :: after →
          (dbAfter directory (inboxStatements handler directory first ++ middle)).Held runId lease →
          command.selects checkpoint.proposalId = true →
            ∀ claim leaseExpires at_ token', .claimSuspended claim leaseExpires at_ token' ∈ after →
              token' ∉ tokensOf message.event moves
  listed : ∀ before tick answer after,
    (inboxAfter handler directory moves).trace =
        before ++ ⟨tick, .listSuspendedRuns handler.managedAccount 100, answer⟩ :: after →
      (suspendedOf handler.managedAccount (Pool.replay perform { directory } before)).length ≤ 100

/-! ## What a delivery calls -/

section Deliveries

variable {handler} {message : OwnerMessage} {token : ActionLeaseToken} {responseId : String}
  {A : (call : Call) → call.Answer → Prop} {P : Call → Prop}

theorem resumeOnly_along (hpln : ∀ call : Call, call.Plain → P call) {planner : PlannerUseCase}
    {command : ParsedApprovalCommand} {candidates : List SuspendedActionRun}
    (hcl : ∀ candidate, candidates.filter (command.selects ·.proposalId) = [candidate] →
      ∀ now leaseExpires at_, P (.statement (.claimSuspended (planner.resumeClaim candidate.runId
        candidate.checkpointId (OfficialInboundHandler.resumeInput message command candidate) now)
        leaseExpires at_ token))) :
    (OfficialInboundHandler.resumeOnly message token responseId planner command
      candidates).run.Along A P fun _ => True := by
  unfold OfficialInboundHandler.resumeOnly
  split
  · next candidate hcand =>
    refine along_seq (along_mapError ?_) fun _ => trivial
    exact resumeRun_plain hpln (hcl candidate hcand)
  · trivial

omit [UuidFormat] [GraphErrorFormat] in
theorem ensureActionRunForOwnerCommand_along (hpln : ∀ call : Call, call.Plain → P call) :
    (handler.ensureActionRunForOwnerCommand message).Along A P fun _ => True := by
  unfold OfficialInboundHandler.ensureActionRunForOwnerCommand
  split
  · trivial
  · exact ⟨hpln .clock trivial, fun now _ => ⟨hpln (.statement _) trivial, fun _ _ => trivial⟩⟩

omit [UuidFormat] [GraphErrorFormat] in
/-- What follows the answer of `try_resume_owner_approval`. -/
theorem resumed_along (hpln : ∀ call : Call, call.Plain → P call) (resumed : Except String Bool) :
    (match resumed with
      | .ok true => (pure () : Process Call Call.Answer Unit)
      | .ok false => handler.ensureActionRunForOwnerCommand message
      | .error _ => pure ()).Along A P fun _ => True := by
  split
  · trivial
  · exact ensureActionRunForOwnerCommand_along hpln
  · trivial

theorem handleMessage_along (hpln : ∀ call : Call, call.Plain → P call)
    (hcl : ∀ claim leaseExpires at_, P (.statement (.claimSuspended claim leaseExpires at_ token))) :
    (handler.handleMessage message token responseId).Along A P fun _ => True := by
  unfold OfficialInboundHandler.handleMessage OfficialInboundHandler.tryResumeOwnerApproval
  split
  · refine Process.Along.bind (Q := fun _ => True) ?_ fun resumed _ => resumed_along hpln resumed
    split
    · trivial
    · split
      · trivial
      · refine along_seq (along_mapError (along_mapError ?_)) fun candidates => ?_
        · exact along_ask (hpln (.listSuspendedRuns _ _) trivial)
        · exact resumeOnly_along hpln fun candidate _ now leaseExpires at_ => hcl _ _ _
  · trivial

/-- The claim was made for the one candidate of the list that the message can mean. -/
def ListedFor (handler : OfficialInboundHandler) (message : OwnerMessage) (claim : SuspendedRunClaim)
    (listing : Performed Tick Call Call.Answer) : Prop :=
  ∃ tick command candidates candidate,
    listing = ⟨tick, .listSuspendedRuns handler.managedAccount 100, .ok candidates⟩ ∧
      parseOwnerApprovalCommand message.envelope.normalizedText = some command ∧
      candidates.filter (command.selects ·.proposalId) = [candidate] ∧
      claim.runId = candidate.runId ∧ claim.checkpointId = candidate.checkpointId ∧
      claim.proposalId = candidate.proposalId

/-- Whoever claims a suspended run under one of the tokens has listed the suspended runs before. -/
def ClaimsListed (handler : OfficialInboundHandler) (event : SourceEventId)
    (moves : List InboxMove) (own : List (Performed Tick Call Call.Answer)) (call : Call) : Prop :=
  ∀ claim leaseExpires at_ lease,
    call = .statement (.claimSuspended claim leaseExpires at_ lease) → lease ∈ tokensOf event moves →
      ∃ message token responseId, .deliver message token responseId ∈ moves ∧ message.event = event ∧
        ∃ listing ∈ own, ListedFor handler message claim listing

variable {event : SourceEventId} {moves : List InboxMove}

omit [UuidFormat] [GraphErrorFormat] in
theorem ClaimsListed.of_plain {own : List (Performed Tick Call Call.Answer)} {call : Call}
    (h : call.Plain) : ClaimsListed handler event moves own call := by
  rintro claim leaseExpires at_ lease rfl
  exact h.elim

theorem handleMessage_knowing (hmove : .deliver message token responseId ∈ moves)
    (hev : message.event = event) :
    (handler.handleMessage message token responseId).Knowing (ClaimsListed handler event moves) [] := by
  have hrest : ∀ {own : List (Performed Tick Call Call.Answer)} (resumed : Except String Bool),
      (match resumed with
        | .ok true => (pure () : Process Call Call.Answer Unit)
        | .ok false => handler.ensureActionRunForOwnerCommand message
        | .error _ => pure ()).Knowing (ClaimsListed handler event moves) own := fun resumed =>
    (resumed_along (P := Call.Plain) (fun _ h => h) resumed).knowing fun _ _ h => .of_plain h
  unfold OfficialInboundHandler.handleMessage OfficialInboundHandler.tryResumeOwnerApproval
  split
  · cases hparse : parseOwnerApprovalCommand message.envelope.normalizedText with
    | none => exact hrest (.ok false)
    | some command =>
      dsimp only
      cases hplanner : handler.actionPlanner with
      | none => exact hrest (.error "action planner is disabled")
      | some planner =>
        refine ⟨.of_plain trivial, fun tick answer => ?_⟩
        cases (answer : Except ActionStoreError (List SuspendedActionRun)) with
        | error error => exact hrest (.error (PlannerUseCaseError.toText (.store error)))
        | ok candidates =>
          let listing : Performed Tick Call Call.Answer :=
            ⟨tick, .listSuspendedRuns handler.managedAccount 100, .ok candidates⟩
          have hpln : ∀ call : Call, call.Plain → ∀ claim leaseExpires at_ lease,
              call = .statement (.claimSuspended claim leaseExpires at_ lease) →
                ListedFor handler message claim listing := by
            rintro call hpln claim leaseExpires at_ lease rfl
            exact hpln.elim
          have hcla : (OfficialInboundHandler.resumeOnly message token responseId planner command
              candidates).run.Along (fun _ _ => True) (fun call => ∀ claim leaseExpires at_ lease,
                call = .statement (.claimSuspended claim leaseExpires at_ lease) →
                  ListedFor handler message claim listing) fun _ => True := by
            refine resumeOnly_along hpln fun candidate hfilt now leaseExpires at_ => ?_
            rintro _ _ _ _ ⟨⟩
            exact ⟨tick, command, candidates, candidate, rfl, hparse, hfilt, rfl, rfl, rfl⟩
          refine (hcla.bind fun resumed _ => resumed_along hpln resumed).knowing ?_
          intro more call hcall claim leaseExpires at_ lease hcl _
          refine ⟨message, token, responseId, hmove, hev, listing, ?_, hcall _ _ _ _ hcl⟩
          exact List.mem_append_left _ (List.mem_singleton_self _)
  · trivial

/-- The statements that a move can come to send, and that others cannot. -/
def InboxMove.MaySend : InboxMove → Statement → Prop
  | .deliver _ token _, .claimSuspended _ _ _ lease => lease = token
  | .other (.start (.resumeRun _ _ _ _ token _)), .claimSuspended _ _ _ lease => lease = token
  | .other (.start (.elsewhere directory)), .elsewhere written => written = directory
  | _, statement => (Call.statement statement).Plain

omit [UuidFormat] [GraphErrorFormat] in
theorem InboxMove.maySend_of_plain {move : InboxMove} {statement : Statement}
    (h : (Call.statement statement).Plain) : move.MaySend statement := by
  unfold InboxMove.MaySend
  split
  · exact h.elim
  · exact h.elim
  · exact h.elim
  · exact h

theorem start_along {move : InboxMove} {p : Process Call Call.Answer Unit}
    (h : .start p ∈ move.poolMoves handler) :
    p.Along A (fun call => ∀ statement, call = .statement statement → move.MaySend statement)
      fun _ => True := by
  have hpln : ∀ call : Call, call.Plain →
      ∀ statement, call = .statement statement → move.MaySend statement := by
    rintro _ hpln statement rfl
    exact InboxMove.maySend_of_plain hpln
  cases move with
  | send event => cases h
  | deliver message token responseId =>
    cases List.mem_singleton.mp h
    refine handleMessage_along hpln ?_
    rintro claim leaseExpires at_ _ ⟨⟩
    rfl
  | other move =>
    cases move with
    | step i tick => cases List.mem_singleton.mp h
    | drop i => cases List.mem_singleton.mp h
    | start program =>
      cases List.mem_singleton.mp h
      cases program with
      | runOnce service workerId token responseId =>
        exact (runOnce_plain hpln).bind fun _ _ => trivial
      | resumeRun service runId checkpointId input token responseId =>
        refine (resumeRun_plain hpln ?_).bind fun _ _ => trivial
        rintro now leaseExpires at_ _ ⟨⟩
        rfl
      | ensureActionRun runId seed now =>
        exact ⟨hpln (.statement _) trivial, fun _ _ => trivial⟩
      | elsewhere directory =>
        refine ⟨?_, fun _ _ => trivial⟩
        rintro _ ⟨⟩
        rfl

end Deliveries

/-! ## Histories -/

section Histories

variable {handler} {directory : Directory} {moves first rest : List InboxMove} {event : SourceEventId}

theorem inboxAfter_state : (inboxAfter handler directory moves).state =
    dbAfter directory (inboxStatements handler directory moves) :=
  Pool.state_eq_replay.trans (replay_eq directory _)

theorem inboxAfter_append : inboxAfter handler directory (first ++ rest) =
    (inboxAfter handler directory first).go perform (rest.flatMap (·.poolMoves handler)) := by
  rw [inboxAfter, List.flatMap_append, Pool.after_append]
  rfl

/-- What no move of a history may send, no process of it sends. -/
theorem inbox_along {P : Statement → Prop}
    (h : ∀ move ∈ moves, ∀ statement, move.MaySend statement → P statement) :
    (∀ statement ∈ inboxStatements handler directory moves, P statement) ∧
      ∀ p ∈ (inboxAfter handler directory moves).processes, p.Along (fun _ _ => True)
        (fun call => ∀ statement, call = .statement statement → P statement) fun _ => True := by
  have hsta : ∀ p, .start p ∈ moves.flatMap (·.poolMoves handler) →
      p.Along (fun _ _ => True) (fun call => ∀ statement, call = .statement statement → P statement)
        fun _ => True := by
    intro p hp
    obtain ⟨move, hmove, hp⟩ := List.mem_flatMap.mp hp
    refine (start_along hp).monoCalls ?_
    exact fun call hcall statement hstmt => h move hmove statement (hcall statement hstmt)
  have hanss : ∀ performed ∈ (inboxAfter handler directory moves).trace, True := fun _ _ => trivial
  obtain ⟨hcalls, hproc⟩ := Pool.calls_along hsta hanss
  refine ⟨fun statement hstmt => ?_, hproc⟩
  obtain ⟨performed, hperf, hcar⟩ := List.mem_filterMap.mp hstmt
  exact hcalls performed hperf statement (call_of_carriedOut hcar)

variable {move : InboxMove} {token : ActionLeaseToken} {account : SourceAccountRef}
  {candidates : List SuspendedActionRun} {candidate : SuspendedActionRun}

omit [UuidFormat] [GraphErrorFormat] in
theorem InboxMove.tokenFor_eq :
    move.tokenFor event = some token ↔
      ∃ message responseId, move = .deliver message token responseId ∧ message.event = event := by
  constructor
  · intro h
    unfold InboxMove.tokenFor at h
    split at h
    · next message lease responseId =>
      split at h
      · next hev =>
        cases h
        exact ⟨message, responseId, rfl, hev⟩
      · cases h
    · cases h
  · rintro ⟨message, responseId, rfl, hev⟩
    exact if_pos hev

omit [UuidFormat] [GraphErrorFormat] in
/-- Under a token of a delivery of the event, only a delivery of the event sends anything. -/
theorem InboxHistory.delivery (h : InboxHistory handler directory moves) (hmove : move ∈ moves)
    (htok : move.token = some token) (hev : token ∈ tokensOf event moves) :
    ∃ message responseId, move = .deliver message token responseId ∧ message.event = event := by
  obtain ⟨delivery, hdeliv, hfor⟩ := List.mem_filterMap.mp hev
  obtain ⟨message, responseId, rfl, hmsg⟩ := InboxMove.tokenFor_eq.mp hfor
  exact ⟨message, responseId, eq_of_optional_key h.fresh hmove hdeliv htok rfl, hmsg⟩

omit [UuidFormat] [GraphErrorFormat] in
/-- A claim of a suspended run is made under the token of its move. -/
theorem InboxMove.token_of_maySend {claim : SuspendedRunClaim} {leaseExpires at_ : Timestamp}
    {lease : ActionLeaseToken} (h : move.MaySend (.claimSuspended claim leaseExpires at_ lease)) :
    move.token = some lease := by
  unfold InboxMove.MaySend at h
  split at h
  · next heq =>
    cases heq
    rw [h]
    rfl
  · next heq =>
    cases heq
    rw [h]
    rfl
  · next heq => cases heq
  · exact h.elim

/-- The statement claims a suspended run under a token of a delivery of the event. -/
def ClaimsFor (event : SourceEventId) (moves : List InboxMove) : Statement → Prop
  | .claimSuspended _ _ _ lease => lease ∈ tokensOf event moves
  | _ => False

omit [UuidFormat] [GraphErrorFormat] in
/-- Before the message is sent, nothing is claimed for it. -/
theorem InboxHistory.unclaimed (h : InboxHistory handler directory moves)
    (hspl : moves = first ++ .send event :: rest) (hfst : tokensOf event first = []) :
    ∀ move ∈ first, ∀ statement, move.MaySend statement → ¬ ClaimsFor event moves statement := by
  intro move hmove statement hmay hcla
  cases statement with
  | claimSuspended claim leaseExpires at_ lease =>
    have hmoves : move ∈ moves := hspl ▸ List.mem_append_left _ hmove
    obtain ⟨message, responseId, rfl, hev⟩ := h.delivery hmoves (InboxMove.token_of_maySend hmay) hcla
    have hmem : lease ∈ tokensOf event first :=
      List.mem_filterMap.mpr ⟨_, hmove, InboxMove.tokenFor_eq.mpr ⟨message, responseId, rfl, hev⟩⟩
    rw [hfst] at hmem
    cases hmem
  | _ => cases hcla

theorem InboxHistory.knowing (h : InboxHistory handler directory moves) (hmove : move ∈ moves)
    {p : Process Call Call.Answer Unit} (hp : .start p ∈ move.poolMoves handler) :
    p.Knowing (ClaimsListed handler event moves) [] := by
  by_cases hdeliv : ∃ message token responseId, move = .deliver message token responseId ∧
      message.event = event
  · obtain ⟨message, token, responseId, rfl, hev⟩ := hdeliv
    cases List.mem_singleton.mp hp
    exact handleMessage_knowing hmove hev
  · refine (start_along hp).knowing fun more call hcall claim leaseExpires at_ lease hcl hls => ?_
    obtain ⟨message, responseId, rfl, hev⟩ :=
      h.delivery hmove (InboxMove.token_of_maySend (hcall _ hcl)) hls
    exact absurd ⟨message, lease, responseId, rfl, hev⟩ hdeliv

/-- What a delivery lists is what is suspended then. -/
theorem listed_then {all before after : List (Performed Tick Call Call.Answer)} {tick : Tick}
    (hall : (inboxAfter handler directory moves).trace = all)
    (hspl : all = before ++ ⟨tick, .listSuspendedRuns account 100, .ok candidates⟩ :: after)
    (hfew : (suspendedOf account (Pool.replay perform { directory } before)).length ≤ 100) :
    candidate ∈ candidates ↔
      ∃ row ∈ suspendedOf account (dbAfter directory (before.filterMap carriedOut)),
        candidateOf row = some candidate := by
  have hans : (tick.store (ActionStore.listSuspendedRuns account 100)
      (Pool.replay perform { directory } before)).1 = .ok candidates :=
    (Pool.answer_eq (hall.trans hspl)).symm
  obtain ⟨db', hlist⟩ := Tick.store_ok (fun candidates => ∃ db',
    ActionStore.listSuspendedRuns account 100 (Pool.replay perform { directory } before) =
      (.ok candidates, db')) (fun h => ⟨_, h⟩) hans
  rw [mem_listed hlist hfew, replay_eq]

/-- Of all suspended proposals of the account, the claimed one is the only one that the message can
mean. -/
def OnlyMeant (account : SourceAccountRef) (db : ActionDb) (message : OwnerMessage)
    (claim : SuspendedRunClaim) : Prop :=
  ∃ command, parseOwnerApprovalCommand message.envelope.normalizedText = some command ∧
    command.selects claim.proposalId = true ∧
    (∃ row ∈ suspendedOf account db, row.runId = claim.runId) ∧
    ∀ row ∈ suspendedOf account db, ∀ checkpoint, row.lastCheckpoint = some checkpoint →
      command.selects checkpoint.proposalId = true → row.runId = claim.runId

omit [ActionGraph.ActionFormat] [UuidFormat] [GraphErrorFormat] in
theorem onlyMeant_of_filter {db : ActionDb} {message : OwnerMessage} {claim : SuspendedRunClaim}
    {command : ParsedApprovalCommand}
    (hparse : parseOwnerApprovalCommand message.envelope.normalizedText = some command)
    (hcands : ∀ other, other ∈ candidates ↔
      ∃ row ∈ suspendedOf account db, candidateOf row = some other)
    (hfilt : candidates.filter (command.selects ·.proposalId) = [candidate])
    (hid : claim.runId = candidate.runId) (hprop : claim.proposalId = candidate.proposalId) :
    OnlyMeant account db message claim := by
  have hmem : candidate ∈ candidates.filter (command.selects ·.proposalId) := by
    rw [hfilt]
    exact List.mem_singleton_self _
  refine ⟨command, hparse, hprop ▸ (List.mem_filter.mp hmem).2, ?_, ?_⟩
  · obtain ⟨row, hrow, hcand⟩ := (hcands candidate).mp (List.mem_filter.mp hmem).1
    obtain ⟨checkpoint, -, rfl⟩ := Option.map_eq_some_iff.mp hcand
    exact ⟨row, hrow, hid.symm⟩
  intro row hrow checkpoint hckpt hsel
  have hoth : (⟨row.runId, checkpoint.checkpointId, checkpoint.proposalId,
      row.commandSourceEventId⟩ : SuspendedActionRun) ∈
        candidates.filter (command.selects ·.proposalId) := by
    refine List.mem_filter.mpr ⟨(hcands _).mpr ⟨row, hrow, ?_⟩, hsel⟩
    rw [candidateOf, hckpt]
    rfl
  rw [hfilt, List.mem_singleton] at hoth
  rw [hid, ← hoth]

/-- Each claim for a message was made for the one proposal that it could mean, of all proposals that
were suspended at some moment after it was sent. -/
theorem claims_listed (h : InboxHistory handler directory moves)
    (hnoth : NothingNewToMean handler directory moves)
    (hspl : moves = first ++ .send event :: rest) (hfst : tokensOf event first = []) :
    ∃ later, inboxStatements handler directory moves =
        inboxStatements handler directory first ++ later ∧
      ∀ before claim leaseExpires at_ lease after,
        later = before ++ .claimSuspended claim leaseExpires at_ lease :: after →
          lease ∈ tokensOf event moves →
          ∃ message token responseId, .deliver message token responseId ∈ moves ∧
            message.event = event ∧ ∃ middle tail, before = middle ++ tail ∧
              OnlyMeant handler.managedAccount
                (dbAfter directory (inboxStatements handler directory first ++ middle)) message claim := by
  have hpool : ∀ p ∈ (inboxAfter handler directory first).processes,
      p.Knowing (ClaimsListed handler event moves) [] := by
    intro p hp
    refine ((inbox_along (h.unclaimed hspl hfst)).2 p hp).knowing ?_
    intro more call hcall claim leaseExpires at_ lease hcl hls
    exact absurd hls (hcall _ hcl)
  have hsta : ∀ p, .start p ∈ (InboxMove.send event :: rest).flatMap (·.poolMoves handler) →
      p.Knowing (ClaimsListed handler event moves) [] := by
    intro p hp
    obtain ⟨move, hmove, hp⟩ := List.mem_flatMap.mp hp
    exact h.knowing (hspl ▸ List.mem_append_right _ hmove) hp
  obtain ⟨new, htrace, hcalls, -⟩ := Pool.go_knowing hpool hsta
  have hall : (inboxAfter handler directory moves).trace =
      (inboxAfter handler directory first).trace ++ new := by
    rw [← htrace, hspl, inboxAfter_append]
  refine ⟨new.filterMap carriedOut, by rw [inboxStatements, hall, List.filterMap_append]; rfl, ?_⟩
  intro before claim leaseExpires at_ lease after hlater hls
  obtain ⟨new₁, new₂, rfl, hbef, hrest⟩ := List.filterMap_eq_append_iff.mp hlater
  obtain ⟨silent, performed, new₃, rfl, hsilent, hcar, -⟩ := List.filterMap_eq_cons_iff.mp hrest
  rw [← List.append_assoc new₁] at hall hcalls
  obtain ⟨own, hown, hlist⟩ := hcalls _ performed new₃ rfl
  obtain ⟨message, token, responseId, hdel, hev, listing, hlisting, hfor⟩ :=
    hlist claim leaseExpires at_ lease (call_of_carriedOut hcar) hls
  obtain ⟨tick, command, candidates, candidate, rfl, hparse, hfilt, hid, -, hprop⟩ := hfor
  obtain ⟨middle, tail, hmid⟩ := List.append_of_mem (hown.subset hlisting)
  refine ⟨message, token, responseId, hdel, hev, middle.filterMap carriedOut,
    tail.filterMap carriedOut, ?_, ?_⟩
  · have hnone : silent.filterMap carriedOut = [] := List.filterMap_eq_nil_iff.mpr hsilent
    have hboth := congrArg (List.filterMap carriedOut) hmid
    rw [List.filterMap_append, hbef, hnone, List.append_nil, List.filterMap_append,
      List.filterMap_cons] at hboth
    exact hboth
  · have hwhole : (inboxAfter handler directory moves).trace =
        ((inboxAfter handler directory first).trace ++ middle) ++
          ⟨tick, .listSuspendedRuns handler.managedAccount 100, .ok candidates⟩ ::
            (tail ++ performed :: new₃) := by
      rw [hall, hmid]
      simp
    have hthen : ∀ other, other ∈ candidates ↔ ∃ row ∈ suspendedOf handler.managedAccount
        (dbAfter directory (inboxStatements handler directory first ++ middle.filterMap carriedOut)),
          candidateOf row = some other := by
      intro other
      rw [listed_then rfl hwhole (hnoth.listed _ _ _ _ hwhole), List.filterMap_append]
      rfl
    exact onlyMeant_of_filter hparse hthen hfilt hid hprop

omit [UuidFormat] [GraphErrorFormat] in
/-- A message is sent a first time before it is delivered. -/
theorem InboxHistory.first_send (h : InboxHistory handler directory moves)
    (htok : token ∈ tokensOf event moves) :
    ∃ first rest, moves = first ++ .send event :: rest ∧ tokensOf event first = [] := by
  obtain ⟨delivery, hdeliv, hfor⟩ := List.mem_filterMap.mp htok
  obtain ⟨message, responseId, rfl, rfl⟩ := InboxMove.tokenFor_eq.mp hfor
  obtain ⟨before, after, hbef⟩ := List.append_of_mem hdeliv
  have hsent : .send message.event ∈ moves := by
    rw [hbef]
    exact List.mem_append_left _ (h.sent _ _ _ _ _ hbef)
  obtain ⟨first, rest, hspl, hnone⟩ := List.eq_append_cons_of_mem hsent
  refine ⟨first, rest, hspl, List.filterMap_eq_nil_iff.mpr fun move hmove => ?_⟩
  cases hmoveFor : move.tokenFor message.event with
  | none => rfl
  | some lease =>
    obtain ⟨other, otherId, rfl, hev⟩ := InboxMove.tokenFor_eq.mp hmoveFor
    obtain ⟨early, late, hearly⟩ := List.append_of_mem hmove
    have hwhole : moves = early ++ .deliver other lease otherId ::
        (late ++ .send message.event :: rest) := by
      rw [hspl, hearly]
      simp
    refine absurd ?_ hnone
    rw [hearly, ← hev]
    exact List.mem_append_left _ (h.sent _ _ _ _ _ hwhole)

/-- The account keeps its key. -/
theorem InboxHistory.account_kept (h : InboxHistory handler directory moves)
    (before after : List Statement) (hspl : inboxStatements handler directory moves = before ++ after)
    (accountId : ℕ) : accountHasId (dbAfter directory before).directory handler.managedAccount accountId =
      accountHasId directory handler.managedAccount accountId := by
  have hall : ∀ statement ∈ inboxStatements handler directory moves, ∀ written,
      statement = .elsewhere written → accountHasId written handler.managedAccount accountId =
        accountHasId directory handler.managedAccount accountId := by
    refine (inbox_along fun move hmove statement hmay => ?_).1
    rintro written rfl
    unfold InboxMove.MaySend at hmay
    split at hmay
    · next heq => cases heq
    · next heq => cases heq
    · next heq =>
      cases heq
      subst hmay
      exact h.account _ hmove accountId
    · exact hmay.elim
  have hbef : ∀ statement ∈ before, ∀ written,
      statement = .elsewhere written → accountHasId written handler.managedAccount accountId =
        accountHasId directory handler.managedAccount accountId := fun statement hmem =>
    hall statement (hspl ▸ List.mem_append_left _ hmem)
  clear hall hspl
  induction before using List.reverseRecOn with
  | nil => rfl
  | append_singleton before last ih =>
    have hdir : (dbAfter directory (before ++ [last])).directory =
        (dbAfter directory before).directory ∨
          last = .elsewhere (dbAfter directory (before ++ [last])).directory := dbAfter_directory
    rcases hdir with hsame | hwr
    · rw [hsame]
      exact ih fun statement hmem => hbef statement (List.mem_append_left _ hmem)
    · exact hbef last (by simp) _ hwr

section Claim

variable {before : List Statement} {claim : SuspendedRunClaim}

/-- A claim for the message comes after its sending, at a moment when its proposal was the only one
that the message could mean; and what it can mean at the claim has been suspended since it was
sent. -/
structure ClaimedSince (handler : OfficialInboundHandler) (directory : Directory)
    (moves first : List InboxMove) (event : SourceEventId) (before : List Statement)
    (claim : SuspendedRunClaim) (since : List Statement) : Prop where
  before_eq : before = inboxStatements handler directory first ++ since
  meant : ∃ message token responseId, .deliver message token responseId ∈ moves ∧
    message.event = event ∧ ∃ middle tail, since = middle ++ tail ∧
      OnlyMeant handler.managedAccount
        (dbAfter directory (inboxStatements handler directory first ++ middle)) message claim
  stayed : ∀ message token responseId, .deliver message token responseId ∈ moves →
    message.event = event → ∀ command,
      parseOwnerApprovalCommand message.envelope.normalizedText = some command →
        ∀ row ∈ (dbAfter directory before).runs, row.status = .suspended → ∀ checkpoint,
          row.lastCheckpoint = some checkpoint → command.selects checkpoint.proposalId = true →
            ∀ early late, since = early ++ late →
              row ∈ (dbAfter directory (inboxStatements handler directory first ++ early)).runs

theorem claimedSince (h : InboxHistory handler directory moves)
    (hnoth : NothingNewToMean handler directory moves)
    (hspl : moves = first ++ .send event :: rest) (hfst : tokensOf event first = [])
    (hres : ResumedAt directory (tokensOf event moves) (inboxStatements handler directory moves)
      before claim) : ∃ since, ClaimedSince handler directory moves first event before claim since := by
  obtain ⟨leaseExpires, at_, lease, after, hstmts, hls, -⟩ := hres
  obtain ⟨later, hlater, hlist⟩ := claims_listed h hnoth hspl hfst
  have hsince : ∃ since, before = inboxStatements handler directory first ++ since ∧
      later = since ++ .claimSuspended claim leaseExpires at_ lease :: after := by
    rcases List.append_eq_append_iff.mp (hlater.symm.trans hstmts) with
      ⟨since, hbef, hrest⟩ | ⟨extra, hearly, hrest⟩
    · exact ⟨since, hbef, hrest⟩
    · cases extra with
      | nil => exact ⟨[], by simpa using hearly.symm, by simpa using hrest.symm⟩
      | cons claimed extra =>
        obtain ⟨rfl, -⟩ := List.cons.inj hrest
        have hnone : ∀ statement ∈ inboxStatements handler directory first,
            ¬ ClaimsFor event moves statement := (inbox_along (h.unclaimed hspl hfst)).1
        refine absurd hls (hnone (.claimSuspended claim leaseExpires at_ lease) ?_)
        rw [hearly]
        exact List.mem_append_right _ List.mem_cons_self
  obtain ⟨since, rfl, rfl⟩ := hsince
  refine ⟨since, rfl, hlist _ _ _ _ _ _ rfl hls, ?_⟩
  intro message token responseId hdel hev command hparse row hrow hsusp checkpoint
    hckpt hsel early late hearly
  obtain ⟨stored, hstd, hthr | ⟨middle, mark, now, tail, hmarked, hheld⟩⟩ :=
    suspended_throughout hrow hsusp
  · exact hthr early late hearly
  · cases hckpt.symm.trans hstd
    subst hev
    refine absurd hls (hnoth.suspensions first message rest hspl token responseId hdel command
      hparse middle row.runId mark checkpoint now
      (tail ++ .claimSuspended claim leaseExpires at_ lease :: after) ?_ hheld hsel claim
      leaseExpires at_ lease (by simp))
    rw [hlater, hmarked]
    simp

/-- What holds of the row that a claim for the message takes. -/
theorem ClaimedSince.row {since : List Statement} (h : InboxHistory handler directory moves)
    (hcld : ClaimedSince handler directory moves first event before claim since)
    {late : List Statement} (hstmts : inboxStatements handler directory moves = before ++ late)
    {row : ActionRunRow} (hrow : row ∈ (dbAfter directory before).runs)
    (hfor : claim.isFor (dbAfter directory before).directory row = true) :
    (∀ early rest, since = early ++ rest →
      row ∈ (dbAfter directory (inboxStatements handler directory first ++ early)).runs) ∧
    accountHasId directory handler.managedAccount row.accountId = true := by
  obtain ⟨message, token, responseId, hdel, hev, middle, tail, hsince, command, hparse,
    hsel, ⟨meant, hmeant, hid⟩, -⟩ := hcld.meant
  obtain ⟨hrun, hsusp, -, checkpoint, hckpt, -, hprop⟩ :=
    SuspendedRunClaim.isFor_spec hfor
  have hstay := hcld.stayed message token responseId hdel hev command hparse row hrow
    hsusp checkpoint hckpt (hprop ▸ hsel)
  refine ⟨hstay, ?_⟩
  rw [mem_suspendedOf] at hmeant
  have hsame : meant = row := eq_of_key_eq dbAfter_keyed.runs hmeant.1 (hstay middle tail hsince)
    (hid.trans hrun.symm)
  rw [← hsame, ← h.account_kept (inboxStatements handler directory first ++ middle)
    (tail ++ late)]
  · exact hmeant.2.2
  · rw [hstmts, hcld.before_eq, hsince]
    simp

/-- A claim for the message is the last one. -/
theorem ClaimedSince.last {since since' before' : List Statement} {claim' : SuspendedRunClaim}
    {leaseExpires at_ : Timestamp} {lease : ActionLeaseToken} {tail : List Statement}
    (h : InboxHistory handler directory moves)
    (hcld : ClaimedSince handler directory moves first event before claim since)
    (hcld' : ClaimedSince handler directory moves first event before' claim' since')
    {row row' : ActionRunRow} (hrow : row ∈ (dbAfter directory before).runs)
    (hfor : claim.isFor (dbAfter directory before).directory row = true)
    (hrow' : row' ∈ (dbAfter directory before').runs)
    (hfor' : claim'.isFor (dbAfter directory before').directory row' = true)
    {late : List Statement} (hstmts : inboxStatements handler directory moves = before' ++ late) :
    before' ≠ before ++ .claimSuspended claim leaseExpires at_ lease :: tail := by
  intro hlater
  have hsince' : since' = since ++ .claimSuspended claim leaseExpires at_ lease :: tail := by
    have happend := hcld'.before_eq.symm.trans (hlater.trans (by
      rw [hcld.before_eq, List.append_assoc]))
    exact List.append_cancel_left happend
  obtain ⟨hstay, hacc⟩ := hcld'.row h hstmts hrow' hfor'
  obtain ⟨-, hsusp, -, checkpoint, hckpt, -, hprop⟩ :=
    SuspendedRunClaim.isFor_spec hfor'
  obtain ⟨message, token, responseId, hdel, hev, middle, rest, hsince, command, hparse,
    hsel, -, honly⟩ := hcld.meant
  obtain ⟨message', token', responseId', hdel', hev', -, -, -, command', hparse', hsel',
    -, -⟩ := hcld'.meant
  have hcmd : command = command' := by
    have htext := h.sameText _ _ _ _ _ _ hdel hdel' (hev.trans hev'.symm)
    rw [htext] at hparse
    exact Option.some.inj (hparse.symm.trans hparse')
  subst hcmd
  -- what the later claim takes was meant by the earlier one, too
  have hmid : row' ∈ suspendedOf handler.managedAccount
      (dbAfter directory (inboxStatements handler directory first ++ middle)) := by
    refine mem_suspendedOf.mpr ⟨hstay middle
      (rest ++ .claimSuspended claim leaseExpires at_ lease :: tail) ?_, hsusp, ?_⟩
    · rw [hsince', hsince, List.append_assoc]
    · rw [h.account_kept (inboxStatements handler directory first ++ middle)
        (rest ++ .claimSuspended claim leaseExpires at_ lease :: tail ++ late)]
      · exact hacc
      · rw [hstmts, hlater, hcld.before_eq, hsince]
        simp
  have hsame := honly row' hmid checkpoint hckpt (hprop ▸ hsel')
  -- but that one does not leave its run suspended
  have haft : row' ∈ (dbAfter directory
      (before ++ [.claimSuspended claim leaseExpires at_ lease])).runs := by
    have hearly := hstay (since ++ [.claimSuspended claim leaseExpires at_ lease]) tail (by
      rw [hsince', List.append_assoc]
      rfl)
    rwa [← List.append_assoc, ← hcld.before_eq] at hearly
  have htkn : row.claim claim.workerId leaseExpires at_ lease ∈ (dbAfter directory
      (before ++ [.claimSuspended claim leaseExpires at_ lease])).runs := by
    rw [dbAfter_snoc]
    exact mem_updateWhere.mpr ⟨row, hrow, if_pos hfor⟩
  have heq := eq_of_key_eq dbAfter_keyed.runs haft htkn
    (hsame.trans (SuspendedRunClaim.isFor_spec hfor).1.symm)
  rw [heq] at hsusp
  cases hsusp

end Claim

/-- Where no proposal that a message can mean is suspended after it was sent, and the list shows all
suspended runs, each message decides on one proposal at most. -/
theorem approvals_authorize_one (h : InboxHistory handler directory moves)
    (hnothing : NothingNewToMean handler directory moves) :
    ApprovalsAuthorizeOne handler directory moves := by
  constructor
  · intro event before claim before' claim' hres hres'
    obtain ⟨leaseExpires, at_, lease, after, hstmts, hls, row, hrow, hfor⟩ := id hres
    obtain ⟨leaseExpires', at_', lease', after', hstmts', hls', row', hrow', hfor'⟩ :=
      id hres'
    obtain ⟨first, rest, hspl, hfst⟩ := h.first_send hls
    obtain ⟨since, hcld⟩ := claimedSince h hnothing hspl hfst hres
    obtain ⟨since', hcld'⟩ := claimedSince h hnothing hspl hfst hres'
    rcases List.append_eq_append_iff.mp (hstmts.symm.trans hstmts') with
      ⟨tail, hbef, hrest⟩ | ⟨tail, hbef, hrest⟩
    · cases tail with
      | nil => rw [hbef, List.append_nil]
      | cons next tail =>
        obtain ⟨rfl, -⟩ := List.cons.inj hrest
        exact absurd hbef (hcld.last h hcld' hrow hfor hrow' hfor' hstmts')
    · cases tail with
      | nil => rw [hbef, List.append_nil]
      | cons next tail =>
        obtain ⟨rfl, -⟩ := List.cons.inj hrest
        exact absurd hbef (hcld'.last h hcld hrow' hfor' hrow hfor hstmts)
  · intro first event rest hspl hfst before claim hres
    obtain ⟨leaseExpires, at_, lease, after, hstmts, hls, row, hrow, hfor⟩ := id hres
    obtain ⟨since, hcld⟩ := claimedSince h hnothing hspl hfst hres
    have hsent := (hcld.row h hstmts hrow hfor).1 [] since rfl
    obtain ⟨hrun, hsusp, -, checkpoint, hckpt, hid, hprop⟩ :=
      SuspendedRunClaim.isFor_spec hfor
    rw [List.append_nil] at hsent
    rw [inboxAfter_state]
    exact ⟨row, hsent, hrun, hsusp, checkpoint, hckpt, hid, hprop⟩
  · intro message token responseId hdel before claim hres
    obtain ⟨leaseExpires, at_, lease, after, hstmts, hls, row, hrow, hfor⟩ := id hres
    obtain ⟨first, rest, hspl, hfst⟩ := h.first_send hls
    obtain ⟨since, hcld⟩ := claimedSince h hnothing hspl hfst hres
    obtain ⟨message', token', responseId', hdel', hev', middle, tail, hsince, command, hparse,
      hsel, -, honly⟩ := hcld.meant
    rw [h.sameText _ _ _ _ _ _ hdel' hdel hev'] at hparse
    refine ⟨command, hparse, hsel, ?_⟩
    intro other hoth checkpoint hckpt hmeans
    rw [mem_suspendedOf, h.account_kept _ _ hstmts] at hoth
    refine honly other (mem_suspendedOf.mpr ⟨?_, hoth.2.1, ?_⟩) checkpoint hckpt hmeans
    · exact hcld.stayed message token responseId hdel rfl command hparse other hoth.1
        hoth.2.1 checkpoint hckpt hmeans middle tail hsince
    · rw [h.account_kept (inboxStatements handler directory first ++ middle)
        (tail ++ .claimSuspended claim leaseExpires at_ lease :: after)]
      · exact hoth.2.2
      · rw [hstmts, hcld.before_eq, hsince]
        simp

end Histories

end Messages

section Scripted

open PlannerService.Scripted ActionGraph.Scripted

/-- The claim at `i`, where it takes effect under one of the tokens. -/
def resumesAt (directory : Directory) (tokens : List ActionLeaseToken) (statements : List Statement)
    (i : ℕ) : Option SuspendedRunClaim :=
  match statements[i]? with
  | some (.claimSuspended claim _ _ token) =>
    let db := dbAfter directory (statements.take i)
    if token ∈ tokens ∧ db.runs.any (claim.isFor db.directory) then some claim else none
  | _ => none

/-- The runs and the proposals that are resumed under one of the tokens. -/
def resumptions (directory : Directory) (tokens : List ActionLeaseToken)
    (statements : List Statement) : List (ActionRunId × String) :=
  (List.range statements.length).filterMap fun i =>
    (resumesAt directory tokens statements i).map fun claim => (claim.runId, claim.proposalId)

theorem resumedAt_of_resumesAt {directory : Directory} {tokens : List ActionLeaseToken}
    {statements : List Statement} {i : ℕ} {claim : SuspendedRunClaim}
    (h : resumesAt directory tokens statements i = some claim) :
    ResumedAt directory tokens statements (statements.take i) claim := by
  unfold resumesAt at h
  split at h
  · next claim' leaseExpires at_ token hstmt =>
    dsimp only at h
    split at h
    · next heff =>
      cases h
      obtain ⟨hi, hget⟩ := List.getElem?_eq_some_iff.mp hstmt
      refine ⟨leaseExpires, at_, token, statements.drop (i + 1), ?_, heff.1, ?_⟩
      · rw [← hget, List.getElem_cons_drop, List.take_append_drop]
      · simpa using heff.2
    · cases h
  · cases h

theorem secondCommand_not_blank : isBlank "evt-cmd-2" = false := by decide

/-- The Owner has two commands. -/
def secondCommand : SourceEventId := ⟨"evt-cmd-2", secondCommand_not_blank⟩

def inboxDirectory : Directory :=
  { Scripted.directory with
    sourceEvents := [ActionStore.Scripted.ownerMessage ActionStore.Scripted.commandEvent,
      ActionStore.Scripted.ownerMessage secondCommand] }

def inboxHandler : OfficialInboundHandler where
  actionPlanner := some taskService
  managedAccount := ActionStore.Scripted.account
  ownerTimezone := "Asia/Shanghai"
  timezoneOffsetSecs := fun _ _ => 28800
  forOwnerCommand := fun _ => runId

/-- The Owner confirms, and names no proposal. -/
def confirmation : OwnerMessage where
  event := ⟨"evt-approve", by decide⟩
  envelope := {
    source := { channel := .qqOpenPlatform, accountId := "app-1", messageId := "m-1" }
    conversation := { kind := .ownerControl, id := "owner-1" }
    actor := { kind := .owner, id := "owner-openid" }
    occurredAtUnixSecs := 1700000000
    normalizedText := "确认"
    segments := [.text "确认"]
    connectionEpochId := none
    senderProfile := none }

/-- The message is delivered, and handled by the execution `i`. -/
def confirmedAt (i : ℕ) (lease : ActionLeaseToken) (now : Timestamp) : List InboxMove :=
  .deliver confirmation lease "resp-2" ::
    (List.replicate 11 (.step i { now, action := .ok "task-1" })).map .other

def suspendedFirst : List InboxMove :=
  (created ++ plannedAt 1 (token "lease-1") 1000000 8).map .other

/-- One run is suspended, and the Owner confirms. -/
def confirmed : List InboxMove :=
  suspendedFirst ++ .send confirmation.event :: confirmedAt 2 (token "lease-2") 2000000

theorem confirmed_delivered {message : OwnerMessage} {lease : ActionLeaseToken} {responseId : String}
    (h : .deliver message lease responseId ∈ confirmed) : message = confirmation := by
  have hdelivered : message = confirmation ∧ lease = token "lease-2" ∧ responseId = "resp-2" := by
    simpa [confirmed, suspendedFirst, confirmedAt, created, plannedAt] using h
  exact hdelivered.1

theorem confirmed_sent {first rest : List InboxMove} {event : SourceEventId}
    (h : confirmed = first ++ .send event :: rest) : first = suspendedFirst := by
  rcases List.append_eq_append_iff.mp h with ⟨more, hfst, hrest⟩ | ⟨more, hfst, hrest⟩
  · cases more with
    | nil => rw [hfst, List.append_nil]
    | cons move more =>
      have hmem : .send event ∈ confirmedAt 2 (token "lease-2") 2000000 := by
        rw [(List.cons.inj hrest).2]
        exact List.mem_append_right _ List.mem_cons_self
      simp [confirmedAt] at hmem
  · cases more with
    | nil => rw [hfst, List.append_nil]
    | cons move more =>
      have hmem : .send event ∈ suspendedFirst := by
        rw [hfst, (List.cons.inj hrest).1]
        exact List.mem_append_right _ List.mem_cons_self
      simp [suspendedFirst] at hmem

theorem confirmed_history : InboxHistory inboxHandler inboxDirectory confirmed where
  fresh := by decide
  sameText := by
    intro message lease responseId message' lease' responseId' hdel hdel' _
    rw [confirmed_delivered hdel, confirmed_delivered hdel']
  sent := by
    intro first message lease responseId rest hspl
    obtain rfl : message = confirmation := by
      apply confirmed_delivered
      rw [hspl]
      exact List.mem_append_right _ List.mem_cons_self
    rcases List.append_eq_append_iff.mp hspl with ⟨more, hfst, hrest⟩ | ⟨more, hfst, hrest⟩
    · cases more with
      | nil => cases hrest
      | cons move more =>
        rw [hfst, ← (List.cons.inj hrest).1]
        exact List.mem_append_right _ List.mem_cons_self
    · cases more with
      | nil => cases hrest
      | cons move more =>
        have hmem : .deliver confirmation lease responseId ∈ suspendedFirst := by
          rw [hfst, (List.cons.inj hrest).1]
          exact List.mem_append_right _ List.mem_cons_self
        simp [suspendedFirst] at hmem
  account := by
    intro other h
    simp [confirmed, suspendedFirst, confirmedAt, created, plannedAt] at h

def suspendsRun : Statement → Bool
  | .markSuspended .. => true
  | _ => false

theorem confirmed_nothingNew : NothingNewToMean inboxHandler inboxDirectory confirmed where
  suspensions := by
    intro first message rest hspl lease responseId _ command _ middle run mark checkpoint now after
      hstmts
    rw [confirmed_sent hspl, List.append_assoc] at hstmts
    have hlater := congrArg
      (List.drop (inboxStatements inboxHandler inboxDirectory suspendedFirst).length) hstmts
    rw [List.drop_left] at hlater
    have hnone : ((inboxStatements inboxHandler inboxDirectory confirmed).drop
        (inboxStatements inboxHandler inboxDirectory suspendedFirst).length).any suspendsRun = false := by
      decide +kernel
    rw [hlater] at hnone
    simp [suspendsRun] at hnone
  listed := by
    intro before tick answer after hspl
    have hfew : ∀ i < (inboxAfter inboxHandler inboxDirectory confirmed).trace.length,
        (suspendedOf inboxHandler.managedAccount (Pool.replay perform { directory := inboxDirectory }
          ((inboxAfter inboxHandler inboxDirectory confirmed).trace.take i))).length ≤ 100 := by
      decide +kernel
    have hlen : before.length < (inboxAfter inboxHandler inboxDirectory confirmed).trace.length := by
      rw [hspl, List.length_append, List.length_cons]
      omega
    have hbef := hfew before.length hlen
    rwa [hspl, List.take_left] at hbef

/-- The first message is delivered, and handled once. -/
theorem approvals_authorize_one_confirmed :
    resumptions inboxDirectory (tokensOf confirmation.event confirmed)
        (inboxStatements inboxHandler inboxDirectory confirmed) = [(runId, "p-task")] ∧
      ApprovalsAuthorizeOne inboxHandler inboxDirectory confirmed :=
  ⟨by decide +kernel, approvals_authorize_one confirmed_history confirmed_nothingNew⟩

theorem secondRun_valid : ActionStore.validateActionId "action_run_id" "run-2" = .ok () := by decide

/-- The second command of the Owner. -/
def createdAgain : List Move :=
  [.start (.ensureActionRun ⟨"run-2", secondRun_valid⟩
      { ActionStore.Scripted.seed with commandSourceEventId := secondCommand } 2500000),
    .step 3 { now := 2500000 }]

/-- The message is delivered again, when another run is suspended. -/
def redelivered : List InboxMove :=
  confirmed ++ (createdAgain ++ plannedAt 4 (token "lease-3") 3000000 8).map .other ++
    confirmedAt 5 (token "lease-4") 4000000

theorem redelivered_approval_resumes_again :
    resumptions inboxDirectory (tokensOf confirmation.event redelivered)
        (inboxStatements inboxHandler inboxDirectory redelivered) =
      [(runId, "p-task"), (⟨"run-2", by decide⟩, "p-again")] ∧
    ¬ ApprovalsAuthorizeOne inboxHandler inboxDirectory redelivered := by
  refine ⟨by decide +kernel, fun h => ?_⟩
  have hres : ∀ i : ℕ, (resumesAt inboxDirectory (tokensOf confirmation.event redelivered)
      (inboxStatements inboxHandler inboxDirectory redelivered) i).isSome = true →
        ∃ claim, ResumedAt inboxDirectory (tokensOf confirmation.event redelivered)
          (inboxStatements inboxHandler inboxDirectory redelivered)
          ((inboxStatements inboxHandler inboxDirectory redelivered).take i) claim := by
    intro i hi
    obtain ⟨claim, hcl⟩ := Option.isSome_iff_exists.mp hi
    exact ⟨claim, resumedAt_of_resumesAt hcl⟩
  obtain ⟨claim, hfst⟩ := hres 4 (by decide +kernel)
  obtain ⟨claim', hsec⟩ := hres 10 (by decide +kernel)
  have hsame := congrArg List.length (h.once _ _ _ _ _ hfst hsec)
  revert hsame
  decide +kernel

end Scripted

end ServerRS.PlannerService

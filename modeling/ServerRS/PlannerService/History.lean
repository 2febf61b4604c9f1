import ServerRS.ActionGraph.Refinement
import ServerRS.ActionStore.LeaseFencing
import ServerRS.PlannerService.Conduct

/-!
# Histories of executions

Any number of executions run at the same time over one store: workers that claim runs, resumes
of the Owner, commands that create runs, and the rest of the program. Each can be dropped at
any point, and any call to the store can fail.

`store_eq` reduces such a history to the statements that were carried out in it, so that what
is known of statements (`LeaseFencing.lean`) holds of it; `statements_along` carries over what
every program says of its own statements.
-/

namespace ServerRS.PlannerService

open Lib AgentCore ActionStore

/-! ## Claims -/

/-- What a claim reads back is under its own token. -/
def Truthful : (call : Call) → call.Answer → Prop
  | .readClaimed token => fun answer => ∀ claimed, answer = .ok claimed → claimed.leaseToken = token
  | _ => fun _ => True

section Claims

variable {A : (call : Call) → call.Answer → Prop} {P : Call → Prop} {token : ActionLeaseToken}

/-- What a claim answers is under the token that it was made with. -/
abbrev ClaimedUnder {ε : Type} (token : ActionLeaseToken) (result : Except ε (Option ClaimedActionRun)) :
    Prop :=
  ∀ claimed, result = .ok (some claimed) → claimed.leaseToken = token

section

variable (hA : ∀ call answer, A call answer → Truthful call answer)
include hA

theorem claimedRow_along (hread : P (.readClaimed token)) {answer : ActionStore.Answer} :
    (Service.claimedRow token answer).run.Along A P (ClaimedUnder token) := by
  unfold Service.claimedRow
  split
  · refine ⟨hread, fun result hres => ?_⟩
    have htrut := hA _ _ hres
    cases result with
    | error error =>
      rintro claimed' ⟨⟩
    | ok claimed =>
      intro claimed' h
      cases h
      exact htrut claimed rfl
  · rintro claimed' ⟨⟩

theorem claimPendingRun_along (hclock : P .clock) (hread : P (.readClaimed token))
    (hreclaim : ∀ now, P (.statement (.reclaimExpired now)))
    (hcl : ∀ workerId leaseExpires now, P (.statement (.claimOldest workerId leaseExpires now token)))
    {workerId : String} {leaseSecs : UInt64} :
    (Service.claimPendingRun workerId leaseSecs token).run.Along A P (ClaimedUnder token) := by
  unfold Service.claimPendingRun
  refine Process.Along.bindExcept (Q := fun _ => True) ⟨hclock, fun _ _ => trivial⟩
    (fun now _ => ?_) fun _ _ => nofun
  refine Process.Along.bindExcept (along_ask (hreclaim now)) (fun _ _ => ?_) fun _ _ => nofun
  refine Process.Along.bindExcept (Q := fun _ => True) trivial (fun lease _ => ?_) fun _ _ => nofun
  exact Process.Along.bindExcept (along_ask (hcl workerId (now + lease) now))
    (fun _ _ => claimedRow_along hA hread) fun _ _ => nofun

theorem claimSuspendedRun_along (hread : P (.readClaimed token)) {claim : SuspendedRunClaim}
    (hcl : ∀ leaseExpires now, P (.statement (.claimSuspended claim leaseExpires now token))) :
    (Service.claimSuspendedRun claim token).run.Along A P (ClaimedUnder token) := by
  unfold Service.claimSuspendedRun
  split
  · exact nofun
  · next now _ =>
    refine Process.Along.bindExcept (Q := fun _ => True) trivial (fun lease _ => ?_) fun _ _ => nofun
    exact Process.Along.bindExcept (along_ask (hcl (now + lease) now))
      (fun _ _ => claimedRow_along hA hread) fun _ _ => nofun

end

/-- A claim, as the use case makes it. -/
theorem storing_claimed {x : Service ActionStoreError (Option ClaimedActionRun)}
    (h : x.run.Along A P (ClaimedUnder token)) : (storing x).run.Along A P (ClaimedUnder token) := by
  refine Process.Along.bind h fun result hres => ?_
  cases result with
  | error error => exact nofun
  | ok claimed =>
    intro claimed' hcld'
    exact hres claimed' (congrArg Except.ok (Except.ok.inj hcld'))

end Claims

section History

variable [ActionGraph.ActionFormat] [UuidFormat] [GraphErrorFormat]

/-- What can be started. -/
inductive Program where
  | runOnce (service : PlannerUseCase) (workerId : String) (token : ActionLeaseToken)
      (responseId : String)
  | resumeRun (service : PlannerUseCase) (runId : ActionRunId) (checkpointId : String)
      (input : SecretaryActionResumeInput) (token : ActionLeaseToken) (responseId : String)
  | ensureActionRun (runId : ActionRunId) (seed : ActionRunSeed) (now : Timestamp)
  /-- The rest of the program writes the tables that the store only reads. -/
  | elsewhere (directory : Directory)

/-- A process whose result nobody reads. -/
def detached {α : Type} (p : Process Call Call.Answer α) : Process Call Call.Answer Unit :=
  p >>= fun _ => pure ()

def Program.process : Program → Process Call Call.Answer Unit
  | .runOnce service workerId token responseId =>
    detached (service.runOnce workerId token responseId).run
  | .resumeRun service runId checkpointId input token responseId =>
    detached (service.resumeRun runId checkpointId input token responseId).run
  | .ensureActionRun runId seed now =>
    detached (Process.ask (R := Call.Answer) (.statement (.ensureActionRun runId seed now)))
  | .elsewhere directory =>
    detached (Process.ask (R := Call.Answer) (.statement (.elsewhere directory)))

/-- What can happen next in a history. -/
inductive Move where
  | start (program : Program)
  /-- The execution at `i` makes its next call. -/
  | step (i : ℕ) (tick : Tick)
  /-- The execution at `i` is dropped. -/
  | drop (i : ℕ)

def Move.poolMove : Move → PoolMove Tick Call Call.Answer Unit
  | .start program => .start program.process
  | .step i tick => .step i tick
  | .drop i => .drop i

/-- The executions and the store after a history that starts with empty tables. -/
def poolAfter (directory : Directory) (moves : List Move) :
    Pool Tick Call Call.Answer Unit ActionDb :=
  Pool.after perform { directory } (moves.map Move.poolMove)

def carriedOut (performed : Performed Tick Call Call.Answer) : Option Statement :=
  match performed.call with
  | .statement statement =>
    match performed.tick.fault with
    | some (.refused _) => none
    | _ => some statement
  | _ => none

omit [ActionGraph.ActionFormat] [UuidFormat] [GraphErrorFormat] in
theorem call_of_carriedOut {performed : Performed Tick Call Call.Answer} {statement : Statement}
    (h : carriedOut performed = some statement) : performed.call = .statement statement := by
  unfold carriedOut at h
  split at h
  · next other hoth =>
    split at h
    · cases h
    · cases h
      exact hoth
  · cases h

def statementsOf (directory : Directory) (moves : List Move) : List Statement :=
  (poolAfter directory moves).trace.filterMap carriedOut

omit [UuidFormat] [GraphErrorFormat] in
theorem perform_snd (performed : Performed Tick Call Call.Answer) (db : ActionDb) :
    (perform performed.tick performed.call db).2 =
      ((carriedOut performed).elim db fun statement => (statement.exec db).2) := by
  obtain ⟨tick, call, answer⟩ := performed
  rcases perform_cases tick call db with ⟨statement, rfl⟩ | ⟨hnot, hsame⟩
  · by_cases hcar : ∀ error, tick.fault ≠ some (.refused error)
    · have hsome : carriedOut ⟨tick, .statement statement, answer⟩ = some statement := by
        unfold carriedOut
        dsimp only
        split
        · next error hfault => exact absurd hfault (hcar error)
        · rfl
      rw [hsome]
      exact Tick.store_carried hcar statement.exec db
    · push Not at hcar
      obtain ⟨error, hfault⟩ := hcar
      have hnone : carriedOut ⟨tick, .statement statement, answer⟩ = none := by
        unfold carriedOut
        dsimp only
        rw [hfault]
      rw [hnone]
      exact congrArg Prod.snd (Tick.store_refused hfault statement.exec db)
  · have hnone : carriedOut ⟨tick, call, answer⟩ = none := by
      unfold carriedOut
      dsimp only
      split
      · exact absurd rfl (hnot _)
      · rfl
    rw [hnone]
    exact hsame

omit [UuidFormat] [GraphErrorFormat] in
theorem replay_eq (directory : Directory) (trace : List (Performed Tick Call Call.Answer)) :
    Pool.replay perform { directory } trace = dbAfter directory (trace.filterMap carriedOut) := by
  induction trace using List.reverseRecOn with
  | nil => rfl
  | append_singleton trace performed ih =>
    rw [Pool.replay_snoc, ih, perform_snd, List.filterMap_append]
    cases h : carriedOut performed with
    | none => simp [h]
    | some statement =>
      rw [List.filterMap_cons, h]
      exact dbAfter_snoc.symm

variable {directory : Directory} {moves : List Move}

/-- The store after a history is what the statements made of it that were carried out. -/
theorem store_eq : (poolAfter directory moves).state = dbAfter directory (statementsOf directory moves) :=
  Pool.state_eq_replay.trans (replay_eq directory _)

/-- What holds of the calls of every program that is started holds of every statement. -/
theorem statements_along {A : (call : Call) → call.Answer → Prop} {P : Statement → Prop}
    (hsta : ∀ program, .start program ∈ moves → program.process.Along A
      (fun call => ∀ statement, call = .statement statement → P statement) fun _ => True)
    (hanss : ∀ performed ∈ (poolAfter directory moves).trace, A performed.call performed.answer) :
    ∀ statement ∈ statementsOf directory moves, P statement := by
  intro statement hstmt
  obtain ⟨performed, hperf, hcar⟩ := List.mem_filterMap.mp hstmt
  have hcall := call_of_carriedOut hcar
  have hpool : ∀ p, .start p ∈ moves.map Move.poolMove → p.Along A
      (fun call => ∀ statement, call = .statement statement → P statement) fun _ => True := ?_
  · exact (Pool.calls_along hpool hanss).1 performed hperf statement hcall
  intro p hp
  obtain ⟨move, hmove, hpool⟩ := List.mem_map.mp hp
  cases move with
  | start program =>
    cases hpool
    exact hsta program hmove
  | step i tick => cases hpool
  | drop i => cases hpool

theorem trace_truthful : ∀ performed ∈ (poolAfter directory moves).trace,
    Truthful performed.call performed.answer := by
  intro performed hperf
  obtain ⟨before, rest, hspl⟩ := List.append_of_mem hperf
  rw [Pool.answer_eq hspl]
  obtain ⟨tick, call, answer⟩ := performed
  cases call with
  | readClaimed token =>
    intro claimed hcld
    exact Tick.store_ok (fun claimed => claimed.leaseToken = token) readClaimed_token hcld
  | _ => trivial

end History

/-! ## Scripted executions

The formats and the graphs of concrete runs, and a run that waits for the Owner's approval of a task. -/

namespace Scripted

/-! ## UUIDs -/

def hexDigits : List Char := "0123456789abcdef".toList

/-- The digits from `first` on, of the 32 of a UUID. -/
def hexGroup (uuid : Uuid) (first count : ℕ) : List Char :=
  (List.range count).map fun i =>
    hexDigits.getD (uuid.bits.toNat / 16 ^ (31 - (first + i)) % 16) '0'

/-- The hyphenated form. -/
def uuidText (uuid : Uuid) : String :=
  .ofList (hexGroup uuid 0 8 ++ '-' :: hexGroup uuid 8 4 ++ '-' :: hexGroup uuid 12 4 ++
    '-' :: hexGroup uuid 16 4 ++ '-' :: hexGroup uuid 20 12)

/-- The hyphenated form of 32 hexadecimal digits. -/
def parseUuid (text : String) : Except String Uuid :=
  let digits := text.toList.filter (· ≠ '-')
  if digits.length = 32 ∧ digits.all (hexDigits.contains ·) then
    .ok ⟨.ofNat 128 (digits.foldl (fun n digit => 16 * n + hexDigits.idxOf digit) 0)⟩
  else .error "invalid length"

theorem slash_notMem_hexGroup (uuid : Uuid) (first count : ℕ) : '/' ∉ hexGroup uuid first count := by
  intro h
  obtain ⟨i, -, hi⟩ := List.mem_map.mp h
  have hdigit : ∀ n < 16, hexDigits.getD n '0' ≠ '/' := by decide
  exact hdigit _ (Nat.mod_lt _ (by decide)) hi

scoped instance uuidFormat : UuidFormat where
  text := uuidText
  parse := parseUuid
  slash_notMem_text := by
    intro uuid
    simp [uuidText, slash_notMem_hexGroup]

open ActionGraph.Scripted in
scoped instance errorFormat : GraphErrorFormat where
  runText := fun error =>
    match error with
    | .graph _ => "graph failed"
    | .missingStore => "no checkpoint store"
    | .saveFailed _ _ _ => "checkpoint not saved"
  resumeText := fun _ => "resume failed"

/-! ## A run that waits -/

section Waiting

open ActionGraph.Scripted

abbrev directory : Directory := ActionStore.Scripted.directory

abbrev runId : ActionRunId := ActionStore.Scripted.runId

abbrev token (id : String) : ActionLeaseToken := ActionStore.Scripted.token id

/-- Where the run waits for the Owner. -/
def waitingAt : CheckpointSummary where
  checkpointId := uuidText ⟨7⟩
  proposalId := "p-task"
  reason := "approval"
  nextNode := "l0_execute"

/-- The run is created, claimed and suspended. -/
def waiting : List Statement :=
  [.ensureActionRun runId ActionStore.Scripted.seed 0, .claimOldest "worker-1" 100000000 1 (token "lease-1"),
    .markSuspended runId (token "lease-1") waitingAt 2]

def waitingRow : ActionRunRow :=
  { ActionStore.Scripted.seed.row runId 1 0 with
    status := .suspended
    lastCheckpoint := some waitingAt
    updatedAt := 2 }

theorem waitingRow_mem : waitingRow ∈ (dbAfter directory waiting).runs := by decide

/-- What a graph run proposes: the task, under an id of its own. -/
def taskOf (graphRun : Uuid) : SecretaryActionProposal :=
  if graphRun = ⟨7⟩ then taskProposal
  else proposal "p-again" (.createTask "买牛奶" none "Asia/Shanghai")

/-- The checkpoint of a graph run that waits for the Owner, named like the run. -/
def waitingCheckpoint (graphRun : Uuid) : AgentCheckpoint SecretaryAgentState :=
  suspendedCheckpoint runtime { runContext with runId := ⟨graphRun⟩ } ⟨⟨3, by decide⟩⟩
    ⟨.approval, ActionGraph.approvalRequest (taskOf graphRun)⟩
    { state := .new newState, current := ActionGraph.l0ExecuteId, visited := [], effectReceipts := [] }
    graphRun {}

/-- The step in which effects are carried out. -/
def effectStep : RunStep := ⟨⟨4, by decide⟩⟩

def taskEnvelope (graphRun : Uuid) : EffectEnvelope SecretaryActionEffect :=
  ⟨⟨⟨graphRun⟩, effectStep, ActionGraph.l0ExecuteId, 0⟩, ⟨taskOf graphRun⟩⟩

/-- Every graph runs into its deadline. -/
def lateService : PlannerUseCase where
  leaseSecs := 60
  graphs := {
    runCheckpointed := fun _ _ => .done (.error (.graph .deadlineExceeded))
    resume := fun _ _ _ => .done (.error (.runFailed (.graph .deadlineExceeded))) }

/-- The Owner approves the task. -/
def approval : SecretaryActionResumeInput := decision "p-task" .approve

/-! ## Histories -/

/-- The graph run of each lease: the resume of a run goes on with the graph run that planned it. -/
def executedBy (token : ActionLeaseToken) : RunId :=
  if token.asStr = "lease-1" ∨ token.asStr = "lease-2" then ⟨⟨7⟩⟩ else ⟨⟨8⟩⟩

/-- A checkpoint has the name of its graph run. -/
def suspendedRun (checkpointId : String) : RunId :=
  match parseUuid checkpointId with
  | .ok uuid => ⟨uuid⟩
  | .error _ => ⟨⟨0⟩⟩

theorem suspendedRun_ok {checkpointId : String} {uuid : Uuid} (h : parseUuid checkpointId = .ok uuid) :
    suspendedRun checkpointId = ⟨uuid⟩ := by
  rw [suspendedRun, h]

/-- Every plan is the task; its effect is carried out once the Owner has approved it, and then the
graph runs into its deadline. -/
def taskService : PlannerUseCase where
  leaseSecs := 60
  graphs := {
    runCheckpointed := fun claimed _ =>
      .done (.ok (.suspended (waitingCheckpoint (executedBy claimed.leaseToken).uuid)))
    resume := fun _ id _ => .call (taskEnvelope id.uuid) fun _ =>
      .done (.error (.runFailed (.graph .deadlineExceeded))) }

/-- The run is planned by the execution `i`, which makes `calls` calls. -/
def plannedAt (i : ℕ) (lease : ActionLeaseToken) (now : Timestamp) (calls : ℕ) : List Move :=
  .start (.runOnce taskService "worker-1" lease "resp-1") :: List.replicate calls (.step i { now })

/-- The Owner approves the task of a graph run, in the execution `i`. -/
def approvedAt (i : ℕ) (graphRun : Uuid) (lease : ActionLeaseToken) (now : Timestamp) : List Move :=
  .start (.resumeRun taskService runId (uuidText graphRun)
      (decision (taskOf graphRun).proposalId .approve) lease "resp-2") ::
    List.replicate 10 (.step i { now, action := .ok "task-1" })

def created : List Move :=
  [.start (.ensureActionRun runId ActionStore.Scripted.seed 0), .step 0 { now := 0 }]

end Waiting

end Scripted

end ServerRS.PlannerService

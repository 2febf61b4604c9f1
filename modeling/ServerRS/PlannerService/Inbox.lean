import ServerRS.PlannerService.History

/-!
# Messages of the Owner

Models `owner_approval.rs` and the end of `OfficialInboundHandler::persist`: a message of the
Owner that the store has admitted is a decision on a suspended run, or a new command. A message
that is delivered again is handled again, under the same source event.
-/

namespace ServerRS.PlannerService

open Lib AgentCore ActionStore

/-! ## Commands -/

inductive ApprovalCommand where
  | approve
  | reject
deriving DecidableEq

structure ParsedApprovalCommand where
  command : ApprovalCommand
  proposalShortId : Option String
deriving DecidableEq

def splitWhitespace (text : String) : List String :=
  ((text.toList.splitOnP Spool.isWhitespace).filter (!·.isEmpty)).map String.ofList

def approvalWord (word : String) : Option ApprovalCommand :=
  if word = "确认" ∨ word = "批准" then some .approve
  else if word = "拒绝" ∨ word = "不执行" then some .reject
  else none

def parseOwnerApprovalCommand (input : String) : Option ParsedApprovalCommand :=
  match splitWhitespace input with
  | [] => none
  | [word] => (approvalWord word).map fun command => ⟨command, none⟩
  | [word, shortId] =>
    (approvalWord word).bind fun command =>
      if shortId.isEmpty ∨ shortId.utf8ByteSize > 36 then none else some ⟨command, some shortId⟩
  | _ => none

/-- The proposals that a command may mean: `proposal_id.starts_with(short_id)`. -/
def ParsedApprovalCommand.selects (command : ParsedApprovalCommand) (proposalId : String) : Bool :=
  match command.proposalShortId with
  | some shortId => shortId.toList.isPrefixOf proposalId.toList
  | none => true

def ApprovalCommand.decision : ApprovalCommand → SecretaryApprovalDecision
  | .approve => .approve
  | .reject => .reject

/-- `InboundMessageEnvelope::accepts_instructions`. -/
def acceptsInstructions (envelope : InboundMessageEnvelope) : Bool :=
  envelope.source.channel == .qqOpenPlatform && envelope.conversation.kind == .ownerControl &&
    envelope.actor.kind == .owner

/-! ## The handler -/

/-- A message that the store has admitted, under its source event. -/
structure OwnerMessage where
  event : SourceEventId
  envelope : InboundMessageEnvelope

section Handler

variable [ActionGraph.ActionFormat]

/-- `OfficialInboundHandler`: what its methods use of it. The offset of a time zone and the ids of
runs (UUIDs of version 5) are functions of other crates. -/
structure OfficialInboundHandler where
  actionPlanner : Option PlannerUseCase
  managedAccount : SourceAccountRef
  ownerTimezone : String
  timezoneOffsetSecs : String → Int → Int
  forOwnerCommand : SourceEventId → ActionRunId

namespace OfficialInboundHandler

variable (handler : OfficialInboundHandler) (message : OwnerMessage)

def resumeInput (message : OwnerMessage) (command : ParsedApprovalCommand)
    (candidate : SuspendedActionRun) : SecretaryActionResumeInput where
  proposalId := candidate.proposalId
  decision := command.command.decision
  commandSourceEventId := candidate.commandSourceEventId
  approvalSourceEventId := some message.event

/-- What `ensure_action_run_for_owner_command` creates a run from. -/
def actionRunSeed : ActionRunSeed where
  account := handler.managedAccount
  commandSourceEventId := message.event
  commandText := message.envelope.normalizedText
  conversationId := message.envelope.conversation.id
  occurredAtUnixSecs := message.envelope.occurredAtUnixSecs
  timezoneOffsetSecs :=
    handler.timezoneOffsetSecs handler.ownerTimezone message.envelope.occurredAtUnixSecs
  timezone := handler.ownerTimezone
  recentEvents := []

def ensureActionRunForOwnerCommand : Process Call Call.Answer Unit :=
  match handler.actionPlanner with
  | none => pure ()
  | some _ => do
    let now ← Process.ask Call.clock
    let _ ← Process.ask (R := Call.Answer)
      (.statement (.ensureActionRun (handler.forOwnerCommand message.event)
        (handler.actionRunSeed message) now))
    pure ()

variable [UuidFormat] [GraphErrorFormat] (token : ActionLeaseToken) (responseId : String)

/-- What is done with the candidates of a decision: exactly one is resumed. -/
def resumeOnly (planner : PlannerUseCase) (command : ParsedApprovalCommand)
    (candidates : List SuspendedActionRun) : Service String Bool :=
  match candidates.filter (command.selects ·.proposalId) with
  | [candidate] => do
    let _ ← (planner.resumeRun candidate.runId candidate.checkpointId
      (resumeInput message command candidate) token responseId).mapError PlannerUseCaseError.toText
    pure true
  | _ => throw "approval requires exactly one matching suspended proposal"

def tryResumeOwnerApproval : Service String Bool :=
  match parseOwnerApprovalCommand message.envelope.normalizedText with
  | none => pure false
  | some command =>
    match handler.actionPlanner with
    | none => throw "action planner is disabled"
    | some planner => do
      let candidates ← (storing
        (Service.ask (.listSuspendedRuns handler.managedAccount 100))).mapError
          PlannerUseCaseError.toText
      resumeOnly message token responseId planner command candidates

/-- The end of `persist`; an error is only logged. -/
def handleMessage : Process Call Call.Answer Unit :=
  if acceptsInstructions message.envelope then do
    let resumed ← (handler.tryResumeOwnerApproval message token responseId).run
    match resumed with
    | .ok true => pure ()
    | .ok false => handler.ensureActionRunForOwnerCommand message
    | .error _ => pure ()
  else pure ()

end OfficialInboundHandler

end Handler

end ServerRS.PlannerService

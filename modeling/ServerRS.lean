import ServerRS.AgentCore.StoreProtocol
import ServerRS.AgentCore.OutcomeFinality
import ServerRS.AgentCore.EffectReport
import ServerRS.AgentCore.EffectIdentity
import ServerRS.AgentCore.SuspendResume
import ServerRS.Spool.FirstOpen
import ServerRS.Spool.TailRepair
import ServerRS.Recovery.Convergence
import ServerRS.Backfill.Completeness
import ServerRS.ActionGraph.Rejection
import ServerRS.ActionGraph.Conflict
import ServerRS.ActionGraph.Rounds
import ServerRS.ActionGraph.Limits
import ServerRS.PlannerService.Resume
import ServerRS.PlannerService.Retry
import ServerRS.PlannerService.Reexecution
import ServerRS.PlannerService.OwnerApproval
import ServerRS.Ingestion.Overflow
import ServerRS.FollowUp.Settling
import ServerRS.ThreadSemantics.Lawful
import ServerRS.NapCat.CqEncoding
import ServerRS.NapCat.Heartbeat
import ServerRS.NotificationPolicy.FencedChain
import ServerRS.NotificationPolicy.Feedback
import ServerRS.OwnerResponse.Progress
import ServerRS.Backfill.LeasedRuns
import ServerRS.Backfill.Bounded
import ServerRS.Continuity.Absorbed
import ServerRS.ActionGraph.Intake
import ServerRS.ThreadSemantics.UseCase
import ServerRS.Participants.Evidence
import ServerRS.RecallSpool.Opening
import ServerRS.Threading.Nearest
import ServerRS.AgentCore.Assembly
import ServerRS.ThreadMutation.Replay
import ServerRS.PlannerViews.Distinct
import ServerRS.Recalls.Keys
import ServerRS.Retrieval.Causal
import ServerRS.Ingestion.Isolation
import ServerRS.Memory.Extractor

import ServerRS.AgentCore.Id
import ServerRS.Lib.Exec

/-!
# Agent state

Models `agent-core/src/state.rs` with the message and action types it stores
(`message.rs`, `action.rs`).

A business crate plugs in through `AgentBusinessState`, the class for the trait
of that name joined with the `AgentEffect` trait of its effect type. A `&mut
self` method that returns a `Result` is an `Exec` over the value it mutates: on
an error the value may already have been written to, and it is
`apply_updates` that protects the caller from that by working on a copy.
-/

namespace ServerRS.AgentCore

open Lib

/-! ## Stored data -/

/-- `serde_json::Value`; numbers keep their text. -/
inductive Value where
  | null
  | bool (value : Bool)
  | number (text : String)
  | string (value : String)
  | array (items : List Value)
  | object (fields : List (String × Value))

structure AgentToolCall where
  id : String
  name : String
  arguments : Value

inductive AgentMessage where
  | system (content : String)
  | user (content : String)
  | assistant (content : String) (toolCalls : List AgentToolCall)
  | tool (callId name content : String)

structure AgentObservation where
  call : AgentToolCall
  result : String
  succeeded : Bool

inductive AgentOutcome where
  | respond (text : String)
deriving DecidableEq

inductive AgentAction where
  | respond (text : String)
  | useTool (name : String) (arguments : Value)
  | callTool (call : AgentToolCall)
  | safetyEscalate (text : String)
  | clarify (text : String)

inductive PromptSource where
  | system
  | conversation
  | summary
  | memory
  | rag
  | freshContext
  | profile
  | location
  | business (name : String)
deriving DecidableEq

inductive PromptTrust where
  | trusted
  | untrusted
deriving DecidableEq

structure PromptSection where
  key : String
  content : String
  source : PromptSource
  trust : PromptTrust
  priority : Int32
deriving DecidableEq

/-! ## Updates and the business protocol -/

/-- `AgentUpdate`: the explicit state changes a node may produce. -/
inductive AgentUpdate (U : Type) where
  | appendMessages (messages : List AgentMessage)
  | appendPromptSections (sections : List PromptSection)
  | replacePendingActions (actions : List AgentAction)
  | appendObservations (observations : List AgentObservation)
  | setOutcome (outcome : AgentOutcome)
  | business (update : U)

/-- `matches!(update, AgentUpdate::Business(_))`. -/
def AgentUpdate.isBusiness {U : Type} : AgentUpdate U → Bool
  | .business _ => true
  | _ => false

inductive AgentStateError where
  | terminalState
  | business (message : String)
deriving DecidableEq

/-- The traits `AgentBusinessState` and `AgentEffect`. -/
class AgentBusinessState (B : Type) where
  Update : Type
  Effect : Type
  /-- `<Effect as AgentEffect>::Receipt`. -/
  Receipt : Type
  SuspendData : Type
  ResumeInput : Type
  stateSchemaVersion : StateSchemaVersion := .initial
  resumeUpdates : ResumeInput → List (AgentUpdate Update)
  applyUpdate : Update → Exec B AgentStateError Unit
  /-- `<Effect as AgentEffect>::receipt_updates`. -/
  receiptUpdates : Receipt → List (AgentUpdate Update)

export AgentBusinessState (Update Effect Receipt SuspendData ResumeInput stateSchemaVersion
  resumeUpdates applyUpdate receiptUpdates)

/-! ## The state -/

structure AgentState (B : Type) where
  messages : List AgentMessage
  promptSections : List PromptSection
  pendingActions : List AgentAction
  observations : List AgentObservation
  outcome : Option AgentOutcome
  business : B

namespace AgentState

variable {B : Type}

def new (business : B) : AgentState B where
  messages := []
  promptSections := []
  pendingActions := []
  observations := []
  outcome := none
  business := business

variable [AgentBusinessState B]

def applyOne (update : AgentUpdate (Update B)) : Exec (AgentState B) AgentStateError Unit := do
  let self ← Exec.get
  if self.outcome.isSome && !update.isBusiness then
    Exec.throw .terminalState
  else
    match update with
    | .appendMessages messages =>
      Exec.modify fun self => { self with messages := self.messages ++ messages }
    | .appendPromptSections sections =>
      Exec.modify fun self => { self with promptSections := self.promptSections ++ sections }
    | .replacePendingActions actions =>
      Exec.modify fun self => { self with pendingActions := actions }
    | .appendObservations observations =>
      Exec.modify fun self => { self with observations := self.observations ++ observations }
    | .setOutcome outcome =>
      Exec.modify fun self => { self with outcome := some outcome }
    | .business update =>
      Exec.zoom AgentState.business (fun business self => { self with business })
        (applyUpdate update)

/-- The loop of `apply_updates`, on the candidate copy. -/
def applyAll : List (AgentUpdate (Update B)) → Exec (AgentState B) AgentStateError Unit
  | [] => pure ()
  | update :: rest => do
    applyOne update
    applyAll rest

/-- `AgentState::apply_updates`: the whole batch on a candidate copy, committed only when
every update was accepted. -/
def applyUpdates (updates : List (AgentUpdate (Update B))) :
    Exec (AgentState B) AgentStateError Unit :=
  Exec.atomic (applyAll updates)

variable {updates : List (AgentUpdate (Update B))} {s s' : AgentState B}

/-- A rejected batch leaves the state unchanged. -/
theorem applyUpdates_error {e : AgentStateError} (h : applyUpdates updates s = (.error e, s')) :
    s' = s :=
  Exec.atomic_error h

/-- An accepted batch is the sequence of its updates, in order. -/
theorem applyUpdates_eq_ok :
    applyUpdates updates s = (.ok (), s') ↔ applyAll updates s = (.ok (), s') :=
  Exec.atomic_eq_ok

theorem applyAll_cons_ok {update : AgentUpdate (Update B)} {rest : List (AgentUpdate (Update B))} :
    applyAll (update :: rest) s = (.ok (), s') ↔
      ∃ s₁, applyOne update s = (.ok (), s₁) ∧ applyAll rest s₁ = (.ok (), s') := by
  rw [applyAll, Exec.bind_eq_ok]
  constructor
  · rintro ⟨⟨⟩, s₁, h₁, h₂⟩
    exact ⟨s₁, h₁, h₂⟩
  · rintro ⟨s₁, h₁, h₂⟩
    exact ⟨(), s₁, h₁, h₂⟩

theorem applyAll_nil_ok : applyAll [] s = (.ok (), s') ↔ s' = s := by
  constructor
  · intro h
    cases h
    rfl
  · rintro rfl
    rfl

/-- A business update is accepted whenever the business state accepts it. -/
theorem applyOne_business_ok {update : Update B} :
    applyOne (.business update) s = (.ok (), s') ↔
      ∃ business, applyUpdate update s.business = (.ok (), business) ∧ s' = { s with business } := by
  unfold applyOne
  rw [Exec.get_bind_apply, if_neg (by simp [AgentUpdate.isBusiness]), Exec.zoom_eq]
  simp only [eq_comm]

/-- An outcome is set once. -/
theorem applyOne_setOutcome_ok {outcome : AgentOutcome} :
    applyOne (.setOutcome outcome) s = (.ok (), s') ↔
      s.outcome = none ∧ s' = { s with outcome := some outcome } := by
  unfold applyOne
  rw [Exec.get_bind_apply]
  constructor
  · intro h
    split at h
    · cases h
    · next hopen =>
      cases h
      exact ⟨by simpa [AgentUpdate.isBusiness] using hopen, rfl⟩
  · rintro ⟨hopen, rfl⟩
    rw [if_neg (by simp [hopen])]
    rfl

end AgentState

end ServerRS.AgentCore

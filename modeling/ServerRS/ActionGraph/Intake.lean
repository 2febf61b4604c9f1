import ServerRS.ActionGraph.Refinement

/-!
# From an Owner command to the planner

Models `validate_event_query` and `RetrieverUseCase::search_events`, and the part of a run that comes
before the planner: the state of the run, the queries of `PlanNode` and the check of the planner's
input. The command passes three limits on the way, and the smallest of them is not the planner's.
-/

namespace ServerRS.ActionGraph

open Lib AgentCore

/-! ## The retriever -/

inductive RetrieverError where
  | invalidData (text : String)
deriving DecidableEq

def RetrieverError.toText : RetrieverError → String
  | .invalidData text => "invalid retriever data: " ++ text

def requireQuery (condition : Prop) [Decidable condition] (text : String) :
    Except RetrieverError Unit :=
  if condition then .ok () else .error (.invalidData text)

@[simp] theorem requireQuery_ok {condition : Prop} [Decidable condition] {text : String} :
    requireQuery condition text = .ok () ↔ condition := by
  unfold requireQuery
  split <;> simp_all

def MAX_QUERY_TEXT_CHARS : ℕ := 1000

def validateEventQuery (query : EventQuery) : Except RetrieverError Unit := do
  requireQuery (query.limit ≠ 0 ∧ query.limit ≤ 100) "EventQuery.limit must be in 1..=100"
  requireQuery (query.queryText.all fun text => decide (text.length ≤ MAX_QUERY_TEXT_CHARS))
    "EventQuery.query_text must not exceed 1000 chars"
  requireQuery (∀ since ∈ query.sinceUnixSecs, ∀ «until» ∈ query.untilUnixSecs, since ≤ «until»)
    "EventQuery.since_unix_secs must not be after until_unix_secs"

inductive RetrievalVisibility where
  | internalMetadata
  | normalOnly
  | normalAndLocalOnly
deriving DecidableEq

def RetrievalVisibility.forModel (isLocalLoopback allowLocalOnly : Bool) : RetrievalVisibility :=
  if isLocalLoopback && allowLocalOnly then .normalAndLocalOnly else .normalOnly

/-- `RetrieverStoreT`, as far as the graph uses it; an error is its text. -/
structure RetrieverStore (W : Type) where
  searchEvents : EventQuery → RetrievalVisibility → Exec W String (List EventSearchResult)
  listRecentEventViews : SourceAccountRef → UInt16 → RetrievalVisibility →
    Exec W String (List AgentEventView)

structure RetrieverUseCase (W : Type) where
  store : RetrieverStore W
  allowLocalOnlyToLoopbackLlm : Bool

namespace RetrieverUseCase

variable {W : Type} (self : RetrieverUseCase W)

def searchEvents (query : EventQuery) (isLocalLoopback : Bool) :
    Exec W String (List EventSearchResult) := do
  Exec.ofExcept ((validateEventQuery query).mapError RetrieverError.toText)
  self.store.searchEvents query (.forModel isLocalLoopback self.allowLocalOnlyToLoopbackLlm)

def listRecentEventViews (account : SourceAccountRef) (limit : UInt16) (isLocalLoopback : Bool) :
    Exec W String (List AgentEventView) :=
  self.store.listRecentEventViews account limit
    (.forModel isLocalLoopback self.allowLocalOnlyToLoopbackLlm)

/-- The retriever that the graph is built with. -/
def port : Retriever W := ⟨self.searchEvents, self.listRecentEventViews⟩

end RetrieverUseCase

/-! ## The way to the planner -/

section

variable {W : Type} [ActionFormat]

/-- `PlanNode::execute` up to the call of the planner. -/
def PlanNode.prepare (ports : ActionPorts W) (context : ActionRunContext)
    (business : SecretaryAgentState) : Exec W NodeError PlannerInput := do
  let retrieved ← PlanNode.retrieved ports context
  let recentEventViews ← PlanNode.recentEventViews ports context
  let conversation ← Exec.ofExcept (PlanNode.commandConversation context)
  let input := PlanNode.plannerInput context business conversation retrieved recentEventViews
  failing .invariant PlannerError.toText (validatePlannerInput input)
  pure input

/-- The start of `execute_claimed` up to the call of the planner: the state of the run, and `PlanNode`,
with which the graph begins. -/
def reachPlanner (ports : ActionPorts W) (context : ActionRunContext)
    (recentEvents : List RecentEventRef) : Exec W String PlannerInput := do
  let state ← Exec.ofExcept ((SecretaryAgentState.new context.commandText []
    [context.commandSourceEventId] recentEvents).mapError SecretaryAgentRuntimeError.toText)
  Exec.mapError NodeError.message (PlanNode.prepare ports context state)

end

/-! ## What else the run needs -/

section

variable {W : Type} [ActionFormat]

/-- The command is one that the planner's input allows. -/
def Accepted (text : String) : Prop :=
  isBlank text = false ∧ text.length ≤ Planner.MAX_COMMAND_TEXT_CHARS

/-- The run is in order, its command aside. -/
structure InOrder (context : ActionRunContext) (recentEvents : List RecentEventRef) : Prop where
  recent_le : recentEvents.length ≤ ServerRS.MAX_RECENT_EVENTS
  recent_bounded : ∀ recent ∈ recentEvents, 1 ≤ recent.summary.length ∧ recent.summary.length ≤ 500
  conversation : isBlank context.conversationId = false
  offset : Planner.MIN_OFFSET_SECS ≤ context.timezoneOffsetSecs ∧
    context.timezoneOffsetSecs ≤ Planner.MAX_OFFSET_SECS
  timezone : isBlank context.timezone = false ∧
    context.timezone.utf8ByteSize ≤ Planner.MAX_TIMEZONE_NAME_BYTES ∧
      PlannerFormat.isTimezone context.timezone = true

/-- The query that `PlanNode` makes of a command. -/
def commandQuery (context : ActionRunContext) : EventQuery where
  account := context.account
  conversation := none
  actorId := none
  threadId := none
  sinceUnixSecs := none
  untilUnixSecs := none
  queryText := some context.commandText
  limit := 20

/-- The planner's input has room for these excerpts. -/
structure ExcerptsFit (excerpts : List PlannerRetrievedExcerpt) : Prop where
  count : excerpts.length ≤ Planner.MAX_RETRIEVED_EXCERPTS
  bounded : ∀ excerpt ∈ excerpts, excerpt.excerpt.length ≤ Planner.MAX_EXCERPT_CHARS ∧
    isBlank excerpt.actorId = false ∧ excerpt.actorId.length ≤ 191

/-- The planner's input allows these views. -/
structure ViewsFit (account : SourceAccountRef) (views : List AgentEventView) : Prop where
  count : views.length ≤ Planner.MAX_RECENT_EVENT_VIEWS
  valid : ∀ view ∈ views, validateAgentEventView view account = .ok ()

/-- The store answers the two queries of the run, and its answers fit. -/
def StoreAnswers (retriever : RetrieverUseCase W) (context : ActionRunContext) (world : W) : Prop :=
  let visibility := RetrievalVisibility.forModel context.isLocalLoopback
    retriever.allowLocalOnlyToLoopbackLlm
  ∃ results world₁ views world₂,
    retriever.store.searchEvents (commandQuery context) visibility world = (.ok results, world₁) ∧
    retriever.store.listRecentEventViews context.account
      (UInt16.ofNat Planner.MAX_RECENT_EVENT_VIEWS) visibility world₁ = (.ok views, world₂) ∧
    ExcerptsFit (results.map fun r => {
      sourceEventId := r.sourceEventId
      excerpt := r.excerpt
      occurredAtUnixSecs := r.occurredAtUnixSecs
      actorId := r.actor.id
      actorKind := r.actor.kind }) ∧
    ViewsFit context.account views

def newState (context : ActionRunContext) (recentEvents : List RecentEventRef) :
    SecretaryAgentState where
  goal := context.commandText
  invariants := []
  evidenceSourceEventIds := [context.commandSourceEventId]
  recentEvents := recentEvents
  phase := .observe
  pendingProposal := none
  lastReceipt := none
  responseDraft := none
  replanRound := 0
  planningObservations := []
  workingContext := none

variable {context : ActionRunContext} {recentEvents : List RecentEventRef}

theorem validatePlanning_new :
    SecretaryAgentState.validatePlanning (newState context recentEvents) = .ok () := by
  unfold SecretaryAgentState.validatePlanning
  simp only [Except.and_then_eq_ok, SecretaryAgentState.requireState_ok]
  exact ⟨UInt8.zero_le, Nat.zero_le _, rfl, Nat.zero_le _, rfl⟩

/-- The command is the goal of the run, and a goal is shorter than a command may be. -/
theorem validateAgentState_new (hord : InOrder context recentEvents) :
    SecretaryAgentState.validateAgentState (newState context recentEvents) = .ok () ↔
      1 ≤ context.commandText.length ∧ context.commandText.length ≤ MAX_GOAL_CHARS := by
  unfold SecretaryAgentState.validateAgentState boundedText
  simp only [Except.and_then_eq_ok, requireProposal_ok, SecretaryAgentState.requireState_ok,
    Except.forM_eq_ok]
  constructor
  · rintro ⟨hgoal, -⟩
    exact hgoal
  · intro hgoal
    have hevi : 1 ≤ MAX_EVIDENCE := by decide
    exact ⟨hgoal, ⟨Nat.zero_le _, hevi, hord.recent_le⟩, fun _ h => (by cases h),
      hord.recent_bounded, validatePlanning_new⟩

theorem new_eq_ok_iff (hord : InOrder context recentEvents) {state : SecretaryAgentState} :
    SecretaryAgentState.new context.commandText [] [context.commandSourceEventId] recentEvents =
      .ok state ↔ (1 ≤ context.commandText.length ∧ context.commandText.length ≤ MAX_GOAL_CHARS) ∧
        state = newState context recentEvents := by
  rw [← validateAgentState_new hord]
  unfold SecretaryAgentState.new
  dsimp only
  rw [Except.and_then_eq_ok]
  exact and_congr_right fun _ => ⟨fun h => (Except.ok.inj h).symm, fun h => congrArg _ h.symm⟩

/-! ## The queries and the input -/

omit [ActionFormat] in
theorem validateEventQuery_command :
    validateEventQuery (commandQuery context) = .ok () ↔
      context.commandText.length ≤ MAX_QUERY_TEXT_CHARS := by
  unfold validateEventQuery
  simp only [Except.and_then_eq_ok, requireQuery_ok]
  constructor
  · rintro ⟨-, htext, -⟩
    exact of_decide_eq_true htext
  · intro htext
    have hlim : (20 : UInt16) ≠ 0 ∧ (20 : UInt16) ≤ 100 := by decide
    exact ⟨hlim, decide_eq_true htext, fun _ h => (by cases h)⟩

omit [ActionFormat] in
theorem length_pos_of_not_blank {text : String} (h : isBlank text = false) : 1 ≤ text.length := by
  rw [Nat.one_le_iff_ne_zero, ← String.length_toList]
  intro hlen
  unfold isBlank at h
  rw [List.eq_nil_of_length_eq_zero hlen] at h
  cases h

variable {retrieved : List PlannerRetrievedExcerpt} {views : List AgentEventView}
  {useCase : RetrieverUseCase W}

/-- The input of an accepted command passes its check if and only if what was retrieved fits. -/
theorem validatePlannerInput_new (hord : InOrder context recentEvents)
    (hacpt : Accepted context.commandText) {conversation : ConversationRef} :
    validatePlannerInput (PlanNode.plannerInput context (newState context recentEvents) conversation
      retrieved views) = .ok () ↔ ExcerptsFit retrieved ∧ ViewsFit context.account views := by
  unfold validatePlannerInput Planner.nonEmptyBoundedText Planner.boundedText
    Planner.validatePlanningState
  simp only [Except.and_then_eq_ok, Planner.requireInput_ok, Except.forM_eq_ok,
    Except.mapError_eq_ok]
  constructor
  · rintro ⟨-, -, hviews, hchk, -, -, hretr, hexc, -⟩
    exact ⟨⟨hretr, fun excerpt hexcer =>
      ⟨(hexc excerpt hexcer).1.2, (hexc excerpt hexcer).2.1, (hexc excerpt hexcer).2.2.2⟩⟩,
      hviews, hchk⟩
  · rintro ⟨hretr, hviews⟩
    obtain ⟨hblank, hlen⟩ := hacpt
    refine ⟨⟨hblank, length_pos_of_not_blank hblank, hlen⟩, hord.recent_le, hviews.count,
      hviews.valid, hord.offset, hord.timezone, hretr.count, ?_, ?_⟩
    · intro excerpt hexcer
      obtain ⟨hshort, hactor, hactorLength⟩ := hretr.bounded excerpt hexcer
      exact ⟨⟨Nat.zero_le _, hshort⟩, hactor, length_pos_of_not_blank hactor, hactorLength⟩
    · exact ⟨Nat.zero_le _, fun _ h => (by cases h), Nat.zero_le _, UInt8.zero_le, rfl⟩

/-! ## Who reaches the planner -/

variable {ports : ActionPorts W} {world : W}

/-- The input is made of what the retriever has answered. -/
theorem prepare_ok_iff (hord : InOrder context recentEvents)
    (hacpt : Accepted context.commandText) :
    (∃ input world', PlanNode.prepare ports context (newState context recentEvents) world =
      (.ok input, world')) ↔
    ∃ retrieved world₁ views world₂, PlanNode.retrieved ports context world = (.ok retrieved, world₁) ∧
      PlanNode.recentEventViews ports context world₁ = (.ok views, world₂) ∧
      ExcerptsFit retrieved ∧ ViewsFit context.account views := by
  have hconv : PlanNode.commandConversation context =
      .ok ⟨.ownerControl, context.conversationId⟩ := by
    unfold PlanNode.commandConversation
    rw [hord.conversation]
    rfl
  unfold PlanNode.prepare failing
  constructor
  · rintro ⟨input, world', hprep⟩
    obtain ⟨retrieved, world₁, hretr, hprep⟩ := Exec.bind_eq_ok.mp hprep
    obtain ⟨views, world₂, hviews, hprep⟩ := Exec.bind_eq_ok.mp hprep
    obtain ⟨conversation, world₃, -, hprep⟩ := Exec.bind_eq_ok.mp hprep
    obtain ⟨⟨⟩, world₄, hval, -⟩ := Exec.bind_eq_ok.mp hprep
    exact ⟨retrieved, world₁, views, world₂, hretr, hviews,
      (validatePlannerInput_new hord hacpt).mp (Except.mapError_eq_ok.mp (Prod.mk.inj hval).1)⟩
  · rintro ⟨retrieved, world₁, views, world₂, hretr, hviews, hfits⟩
    have hin : validatePlannerInput (PlanNode.plannerInput context (newState context recentEvents)
        ⟨.ownerControl, context.conversationId⟩ retrieved views) = .ok () :=
      (validatePlannerInput_new hord hacpt).mpr hfits
    refine ⟨PlanNode.plannerInput context (newState context recentEvents)
      ⟨.ownerControl, context.conversationId⟩ retrieved views, world₂, ?_⟩
    simp only [Exec.bind_apply, hretr, hviews, Exec.ofExcept_apply, hconv, hin]
    rfl

/-- Without a retriever `PlanNode` asks nothing. -/
theorem prepare_alone (hord : InOrder context recentEvents)
    (hacpt : Accepted context.commandText) (hnone : ports.retriever = none) :
    ∃ input world', PlanNode.prepare ports context (newState context recentEvents) world =
      (.ok input, world') := by
  refine (prepare_ok_iff hord hacpt).mpr ⟨[], world, [], world, ?_, ?_,
    ⟨Nat.zero_le _, fun _ h => by cases h⟩, ⟨Nat.zero_le _, fun _ h => by cases h⟩⟩
  · unfold PlanNode.retrieved
    rw [hnone]
    rfl
  · unfold PlanNode.recentEventViews
    rw [hnone]
    rfl

omit [ActionFormat] in
theorem retrieved_eq (hsome : ports.retriever = some useCase.port) :
    PlanNode.retrieved ports context = (do
      let results ← Exec.mapError (withSource .transient)
        (useCase.searchEvents (commandQuery context) context.isLocalLoopback)
      pure (results.map fun r => {
        sourceEventId := r.sourceEventId
        excerpt := r.excerpt
        occurredAtUnixSecs := r.occurredAtUnixSecs
        actorId := r.actor.id
        actorKind := r.actor.kind })) := by
  unfold PlanNode.retrieved
  rw [hsome]
  rfl

/-- With a retriever the command is a query first. -/
theorem prepare_searching (hord : InOrder context recentEvents)
    (hacpt : Accepted context.commandText) (hsome : ports.retriever = some useCase.port) :
    (∃ input world', PlanNode.prepare ports context (newState context recentEvents) world =
      (.ok input, world')) ↔
        context.commandText.length ≤ MAX_QUERY_TEXT_CHARS ∧ StoreAnswers useCase context world := by
  have hlisted : PlanNode.recentEventViews ports context = Exec.mapError (withSource .transient)
      (useCase.listRecentEventViews context.account
        (UInt16.ofNat Planner.MAX_RECENT_EVENT_VIEWS) context.isLocalLoopback) := by
    unfold PlanNode.recentEventViews
    rw [hsome]
    rfl
  rw [← validateEventQuery_command, prepare_ok_iff hord hacpt, retrieved_eq hsome, hlisted]
  constructor
  · rintro ⟨retrieved, world₁, views, world₂, hretr, hviews, hexc, hfit⟩
    obtain ⟨results, world₃, hres, hpure⟩ := Exec.bind_eq_ok.mp hretr
    obtain ⟨⟨⟩, world₄, hval, hsearch⟩ := Exec.bind_eq_ok.mp (Exec.mapError_eq_ok.mp hres)
    obtain ⟨hvalid, rfl⟩ := Prod.mk.inj hval
    obtain ⟨hmap, rfl⟩ := Prod.mk.inj hpure
    obtain rfl := Except.ok.inj hmap
    exact ⟨Except.mapError_eq_ok.mp hvalid, results, world₃, views, world₂, hsearch,
      Exec.mapError_eq_ok.mp hviews, hexc, hfit⟩
  · rintro ⟨hval, results, world₁, views, world₂, hsearch, hviews, hexc, hfit⟩
    refine ⟨_, world₁, views, world₂, Exec.bind_eq_ok.mpr ⟨results, world₁,
      Exec.mapError_eq_ok.mpr ?_, rfl⟩, Exec.mapError_eq_ok.mpr hviews, hexc, hfit⟩
    refine Exec.bind_eq_ok.mpr ⟨(), world, ?_, hsearch⟩
    rw [Exec.ofExcept_apply, hval]
    rfl

/-- The command reaches the planner exactly when it fits the goal of the run, and where there is a
retriever the text of a query, and the planner's input has room for the answers of its store. -/
theorem accepted_command_reaches_planner_iff (ports : ActionPorts W)
    (useCase : Option (RetrieverUseCase W)) (hports : ports.retriever = useCase.map RetrieverUseCase.port)
    (context : ActionRunContext) (recentEvents : List RecentEventRef) (world : W)
    (haccepted : Accepted context.commandText) (horder : InOrder context recentEvents) :
    (∃ input world', reachPlanner ports context recentEvents world = (.ok input, world')) ↔
      context.commandText.length ≤ MAX_GOAL_CHARS ∧
        ∀ retriever ∈ useCase, context.commandText.length ≤ MAX_QUERY_TEXT_CHARS ∧
          StoreAnswers retriever context world := by
  have hpos := length_pos_of_not_blank haccepted.1
  have hprep : (∃ input world', PlanNode.prepare ports context (newState context recentEvents)
      world = (.ok input, world')) ↔
        ∀ retriever ∈ useCase, context.commandText.length ≤ MAX_QUERY_TEXT_CHARS ∧
          StoreAnswers retriever context world := by
    cases useCase with
    | none => exact ⟨fun _ _ h => (by cases h), fun _ => prepare_alone horder haccepted hports⟩
    | some retriever =>
      rw [prepare_searching horder haccepted hports]
      refine ⟨fun h other hother => ?_, fun h => h retriever rfl⟩
      obtain rfl := Option.some.inj hother
      exact h
  rw [← hprep]
  unfold reachPlanner
  constructor
  · rintro ⟨input, world', hrch⟩
    obtain ⟨state, world₁, hst, hrest⟩ := Exec.bind_eq_ok.mp hrch
    obtain ⟨hnew, rfl⟩ := Prod.mk.inj hst
    obtain ⟨hgoal, rfl⟩ := (new_eq_ok_iff horder).mp (Except.mapError_eq_ok.mp hnew)
    exact ⟨hgoal.2, input, world', Exec.mapError_eq_ok.mp hrest⟩
  · rintro ⟨hgoal, input, world', hin⟩
    refine ⟨input, world', Exec.bind_eq_ok.mpr ⟨newState context recentEvents, world, ?_,
      Exec.mapError_eq_ok.mpr hin⟩⟩
    rw [Exec.ofExcept_apply, (new_eq_ok_iff horder).mpr ⟨⟨hpos, hgoal⟩, rfl⟩]
    rfl

end

namespace Scripted

/-- A store that finds no excerpt. -/
def storeOf (views : List AgentEventView) : RetrieverUseCase Script where
  store := {
    searchEvents := fun _ _ script => (.ok [], script)
    listRecentEventViews := fun _ _ _ script => (.ok views, script) }
  allowLocalOnlyToLoopbackLlm := false

def searching (views : List AgentEventView) : ActionPorts Script :=
  { ports with retriever := some (storeOf views).port }

def idle : Script := ⟨[], [], [], none⟩

/-- A message of the group that mentions `n` of its members. -/
def mentioning (n : ℕ) : AgentEventView where
  sourceEventId := commandEvent
  conversation := ⟨.group, "group"⟩
  actor := ⟨account, "member", none⟩
  occurredAtUnixSecs := 1700000000
  role := .externalObservation
  contentTrustLevel := .normal
  excerpt := "hello"
  mentionedActors := List.replicate n ⟨account, "member", none⟩
  mentionAll := false
  replyToEventId := none
  threadId := none

theorem storeOf_answers (context : ActionRunContext) (script : Script) {views : List AgentEventView}
    (hfit : ViewsFit context.account views) : StoreAnswers (storeOf views) context script :=
  ⟨[], script, views, script, rfl, rfl, ⟨Nat.zero_le _, fun _ h => (by cases h)⟩, hfit⟩

theorem viewsFit_mentioning : ViewsFit account [mentioning 20] where
  count := by decide
  valid := fun view hview => by
    obtain rfl := List.mem_singleton.mp hview
    decide

def longCommand : ActionRunContext :=
  { command with commandText := String.ofList (List.replicate 1001 'x') }

theorem command_inOrder (text : String) : InOrder { command with commandText := text } [] where
  recent_le := Nat.zero_le _
  recent_bounded := fun _ h => by cases h
  conversation := (by decide : isBlank "owner-1" = false)
  offset := (by decide : Planner.MIN_OFFSET_SECS ≤ 28800 ∧ (28800 : Int) ≤ Planner.MAX_OFFSET_SECS)
  timezone := (by decide : isBlank "Asia/Shanghai" = false ∧
    "Asia/Shanghai".utf8ByteSize ≤ Planner.MAX_TIMEZONE_NAME_BYTES ∧
      PlannerFormat.isTimezone "Asia/Shanghai" = true)

/-- The planner is reached only through both queries. -/
theorem stops_before_planner {context : ActionRunContext} {script : Script}
    {views : List AgentEventView} (hacpt : Accepted context.commandText) (hord : InOrder context [])
    (hnot : ¬(context.commandText.length ≤ MAX_QUERY_TEXT_CHARS ∧
      StoreAnswers (storeOf views) context script)) :
    ¬ ∃ input script', reachPlanner (searching views) context [] script = (.ok input, script') := by
  rintro ⟨input, script', hrch⟩
  unfold reachPlanner at hrch
  obtain ⟨state, world₁, hst, hrest⟩ := Exec.bind_eq_ok.mp hrch
  obtain ⟨hnew, rfl⟩ := Prod.mk.inj hst
  obtain ⟨-, rfl⟩ := (new_eq_ok_iff hord).mp (Except.mapError_eq_ok.mp hnew)
  exact hnot ((prepare_searching hord hacpt rfl).mp ⟨input, script', Exec.mapError_eq_ok.mp hrest⟩)

end Scripted

open Scripted in
theorem accepted_command_reaches_planner_scripted : ∃ input script,
    reachPlanner (searching [mentioning 20]) command [] idle = (.ok input, script) :=
  (accepted_command_reaches_planner_iff (searching [mentioning 20])
    (some (storeOf [mentioning 20])) rfl command [] idle
    ⟨by decide, by decide⟩ (command_inOrder _)).mpr ⟨by decide, fun retriever h => by
      obtain rfl := Option.some.inj h
      exact ⟨by decide, storeOf_answers command idle viewsFit_mentioning⟩⟩

open Scripted in
/-- A command that the planner's input allows never reaches the planner, though the store finds
nothing; and no command at all does when a recent message mentions more than 20 members. -/
theorem long_command_stops_before_planner :
    (Accepted longCommand.commandText ∧ InOrder longCommand [] ∧
      StoreAnswers (storeOf []) longCommand idle ∧
        ¬ ∃ input script, reachPlanner (searching []) longCommand [] idle = (.ok input, script)) ∧
    (Accepted command.commandText ∧ InOrder command [] ∧
      ¬ ∃ input script, reachPlanner (searching [mentioning 21]) command [] idle =
        (.ok input, script)) := by
  have hlen : longCommand.commandText.length = 1001 := by
    show (String.ofList (List.replicate 1001 'x')).length = 1001
    rw [String.length_ofList, List.length_replicate]
  have hblank : isBlank longCommand.commandText = false := by
    show (String.ofList (List.replicate 1001 'x')).toList.all Spool.isWhitespace = false
    rw [String.toList_ofList, List.all_replicate]
    decide
  have hacpt : Accepted longCommand.commandText := by
    refine ⟨hblank, ?_⟩
    rw [hlen]
    decide
  have hlong : ¬longCommand.commandText.length ≤ MAX_QUERY_TEXT_CHARS := by
    rw [hlen]
    decide
  have hcommand : Accepted command.commandText := ⟨by decide, by decide⟩
  refine ⟨⟨hacpt, command_inOrder _, storeOf_answers _ _ ⟨Nat.zero_le _, fun _ h => by cases h⟩,
    stops_before_planner hacpt (command_inOrder _) fun h => hlong h.1⟩, hcommand, command_inOrder _,
    stops_before_planner hcommand (command_inOrder _) ?_⟩
  rintro ⟨-, _, _, views, _, -, hviews, -, hfit⟩
  -- the store answers with the view that is refused
  have hmem : mentioning 21 ∈ views := by
    rw [← Except.ok.inj (Prod.mk.inj hviews).1]
    exact List.mem_singleton_self _
  have hvalid := hfit.valid _ hmem
  revert hvalid
  decide

end ServerRS.ActionGraph

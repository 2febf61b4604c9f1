import ServerRS.Lib.SplitList
import ServerRS.Threading.Store

/-!
# The state of the planner

What the maps of the loop hold after some events (`tracks_planAll`), and from this what an event is
attached to (`attachment`): a parent or a predecessor among the events before it, what the store
supplied, or nothing (`chooseThread_eq`).
-/

namespace ServerRS.Threading

open Lib

variable {policy : DeterministicThreadPolicy} {uuid : ℕ → String} {state : Planning}
  {events before after : List ThreadProjectionEvent} {event earlier : ThreadProjectionEvent}

/-- The assignment that a round makes. -/
def assignmentOf (policy : DeterministicThreadPolicy) (uuid : ℕ → String) (state : Planning)
    (event : ThreadProjectionEvent) : ThreadAssignment where
  sourceEventId := event.sourceEventId
  threadId := (event.chooseThread policy uuid state).1
  account := event.account
  rootEventId := (event.chooseThread policy uuid state).2.2
  occurredAtUnixSecs := event.occurredAtUnixSecs
  createsThread := (event.chooseThread policy uuid state).2.1

/-- How many identifiers are drawn when the thread of `event` is chosen. -/
def drawnFor (policy : DeterministicThreadPolicy) (uuid : ℕ → String) (state : Planning)
    (event : ThreadProjectionEvent) : ℕ :=
  if (assignmentOf policy uuid state event).createsThread then state.drawn + 1 else state.drawn

/-- The relations that a round makes. -/
def newRelations (policy : DeterministicThreadPolicy) (uuid : ℕ → String) (state : Planning)
    (event : ThreadProjectionEvent) : List ThreadRelation :=
  event.relationsOf policy uuid (drawnFor policy uuid state event) (event.previous policy state.latest)
    (assignmentOf policy uuid state event).threadId

@[simp] theorem planEvent_assignments : (planEvent policy uuid state event).assignments =
    state.assignments ++ [assignmentOf policy uuid state event] := rfl

@[simp] theorem planEvent_relations : (planEvent policy uuid state event).relations =
    state.relations ++ newRelations policy uuid state event := rfl

@[simp] theorem planEvent_assigned : (planEvent policy uuid state event).assigned =
    Function.update state.assigned event.sourceEventId.asStr
      (some (assignmentOf policy uuid state event).threadId) := rfl

@[simp] theorem planEvent_latest : (planEvent policy uuid state event).latest =
    Function.update state.latest event.conversationKey
      (some (event.context (assignmentOf policy uuid state event).threadId)) := rfl

@[simp] theorem planEvent_drawn : (planEvent policy uuid state event).drawn =
    drawnFor policy uuid state event + (newRelations policy uuid state event).length := rfl

theorem planAll_nil : planAll policy uuid [] = .start := rfl

theorem planAll_snoc : planAll policy uuid (events ++ [event]) =
    planEvent policy uuid (planAll policy uuid events) event := by
  rw [planAll, List.foldl_append]
  rfl

/-! ## Rounds and their outputs -/

theorem allSplits_assignments {P : List ThreadAssignment → ThreadAssignment → Prop} :
    AllSplits P (planAll policy uuid events).assignments ↔ AllSplits (fun before event =>
      P (planAll policy uuid before).assignments
        (assignmentOf policy uuid (planAll policy uuid before) event)) events := by
  induction events using List.reverseRecOn with
  | nil => exact iff_of_true allSplits_nil allSplits_nil
  | append_singleton events event ih =>
    rw [planAll_snoc, planEvent_assignments, allSplits_snoc, allSplits_snoc, ih]

theorem forall_mem_relations {P : ThreadRelation → Prop} :
    (∀ relation ∈ (planAll policy uuid events).relations, P relation) ↔
      AllSplits (fun before event =>
        ∀ relation ∈ newRelations policy uuid (planAll policy uuid before) event, P relation) events := by
  induction events using List.reverseRecOn with
  | nil => exact iff_of_true (by simp [planAll_nil, Planning.start]) allSplits_nil
  | append_singleton events event ih =>
    rw [planAll_snoc, planEvent_relations, allSplits_snoc, ← ih]
    exact List.forall_mem_append

theorem map_sourceEventId_assignments :
    (planAll policy uuid events).assignments.map ThreadAssignment.sourceEventId =
      events.map ThreadProjectionEvent.sourceEventId := by
  induction events using List.reverseRecOn with
  | nil => rfl
  | append_singleton events event ih =>
    rw [planAll_snoc, planEvent_assignments, List.map_append, List.map_append, ih]
    rfl

/-- Each event has an assignment, and each assignment is that of an event. -/
theorem mem_assignments {assignment : ThreadAssignment} :
    assignment ∈ (planAll policy uuid events).assignments ↔ ∃ before event after,
      events = before ++ event :: after ∧
        assignment = assignmentOf policy uuid (planAll policy uuid before) event := by
  induction events using List.reverseRecOn with
  | nil =>
    refine iff_of_false (by simp [planAll_nil, Planning.start]) ?_
    rintro ⟨before, event, after, h, -⟩
    exact absurd h.symm (List.append_ne_nil_of_right_ne_nil _ (List.cons_ne_nil _ _))
  | append_singleton events event ih =>
    rw [planAll_snoc, planEvent_assignments, List.mem_append, ih, List.mem_singleton]
    constructor
    · rintro (⟨before, first, after, rfl, rfl⟩ | rfl)
      · exact ⟨before, first, after ++ [event], by simp, rfl⟩
      · exact ⟨events, event, [], rfl, rfl⟩
    · rintro ⟨before, first, after, hspl, rfl⟩
      rcases snoc_eq_split.mp hspl with ⟨rfl, rfl, rfl⟩ | ⟨rest, rfl, hrest⟩
      · exact .inr rfl
      · exact .inl ⟨before, first, rest, hrest, rfl⟩

/-! ## The maps -/

/-- The last of the events with the conversation key of `event`. -/
def latestOf (before : List ThreadProjectionEvent) (event : ThreadProjectionEvent) :
    Option ThreadProjectionEvent :=
  before.reverse.find? fun previous => decide (previous.conversationKey = event.conversationKey)

theorem latestOf_snoc : latestOf (before ++ [earlier]) event =
    if earlier.conversationKey = event.conversationKey then some earlier else latestOf before event := by
  rw [latestOf, List.reverse_append]
  by_cases h : earlier.conversationKey = event.conversationKey <;> simp [h, latestOf]

theorem latestOf_mem (h : latestOf before event = some earlier) :
    earlier ∈ before ∧ earlier.conversationKey = event.conversationKey := by
  have hfnd := List.find?_some h
  exact ⟨List.mem_reverse.mp (List.mem_of_find?_eq_some h), of_decide_eq_true hfnd⟩

theorem latestOf_eq_none (h : latestOf before event = none) :
    ∀ earlier ∈ before, earlier.conversationKey ≠ event.conversationKey := by
  intro earlier hmem hkey
  exact absurd (decide_eq_true hkey) (List.find?_eq_none.mp h earlier (List.mem_reverse.mpr hmem))

/-- What the maps hold after `events`. -/
structure Tracks (events : List ThreadProjectionEvent) (state : Planning) : Prop where
  assigned : ∀ event ∈ events, ∃ assignment ∈ state.assignments,
    assignment.sourceEventId = event.sourceEventId ∧ assignment.account = event.account ∧
      state.assigned event.sourceEventId.asStr = some assignment.threadId
  unassigned : ∀ id : SourceEventId, id ∉ events.map ThreadProjectionEvent.sourceEventId →
    state.assigned id.asStr = none
  latest : ∀ event, state.latest event.conversationKey =
    (latestOf events event).bind fun previous =>
      (state.assigned previous.sourceEventId.asStr).map previous.context

theorem Tracks.planEvent (h : Tracks events state)
    (hnew : event.sourceEventId ∉ events.map ThreadProjectionEvent.sourceEventId) :
    Tracks (events ++ [event]) (planEvent policy uuid state event) := by
  have hoth : ∀ earlier ∈ events, Function.update state.assigned event.sourceEventId.asStr
      (some (assignmentOf policy uuid state event).threadId) earlier.sourceEventId.asStr =
        state.assigned earlier.sourceEventId.asStr := by
    intro earlier hear
    refine Function.update_of_ne (fun heq => hnew ?_) _ _
    rw [← SourceEventId.asStr_injective heq]
    exact List.mem_map_of_mem hear
  refine ⟨fun earlier hear => ?_, fun id hid => ?_, fun other => ?_⟩
  · rw [planEvent_assignments, planEvent_assigned]
    rcases List.mem_append.mp hear with hold | hlast
    · obtain ⟨assignment, hmem, hsame, hacc, hass⟩ := h.assigned earlier hold
      exact ⟨assignment, List.mem_append_left _ hmem, hsame, hacc,
        (hoth earlier hold).trans hass⟩
    · rw [List.mem_singleton.mp hlast]
      exact ⟨_, List.mem_append_right _ (List.mem_singleton_self _), rfl, rfl,
        Function.update_self _ _ _⟩
  · rw [List.map_append, List.mem_append, not_or] at hid
    rw [planEvent_assigned, Function.update_of_ne]
    · exact h.unassigned id hid.1
    · intro heq
      exact hid.2 (List.mem_singleton.mpr (SourceEventId.asStr_injective heq))
  · rw [planEvent_latest, planEvent_assigned, latestOf_snoc]
    by_cases hkey : event.conversationKey = other.conversationKey
    · rw [if_pos hkey, ← hkey, Function.update_self, Option.bind_some, Function.update_self]
      rfl
    · rw [if_neg hkey, Function.update_of_ne (Ne.symm hkey), h.latest other]
      cases hlat : latestOf events other with
      | none => rfl
      | some previous =>
        rw [Option.bind_some, Option.bind_some, hoth previous (latestOf_mem hlat).1]

theorem tracks_planAll (hnd : (events.map ThreadProjectionEvent.sourceEventId).Nodup) :
    Tracks events (planAll policy uuid events) := by
  induction events using List.reverseRecOn with
  | nil => exact ⟨fun _ hmem => absurd hmem List.not_mem_nil, fun _ _ => rfl, fun _ => rfl⟩
  | append_singleton events event ih =>
    rw [List.map_append, List.nodup_append] at hnd
    rw [planAll_snoc]
    refine (ih hnd.1).planEvent fun hmem => ?_
    exact hnd.2.2 _ hmem _ (List.mem_singleton_self _) rfl

/-! ## What an event is attached to -/

inductive Attachment where
  | reply (parent : ThreadProjectionEvent)
  | stored (threadId : EventThreadId)
  | latest (previous : ThreadProjectionEvent)
  | context (previous : ThreadContextEvent)
  | new
deriving DecidableEq

/-- The event before `event` that the store supplied, unless its thread is finished. -/
def ThreadProjectionEvent.liveContext (event : ThreadProjectionEvent) : Option ThreadContextEvent :=
  if event.previousThreadIsTerminal then none else event.previousInConversation

/-- The attachment by proximity of `event`, which comes after the events `before`. -/
def proximity (policy : DeterministicThreadPolicy) (before : List ThreadProjectionEvent)
    (event : ThreadProjectionEvent) : Attachment :=
  match latestOf before event with
  | some previous =>
    if policy.within event.occurredAtUnixSecs previous.occurredAtUnixSecs then .latest previous else .new
  | none =>
    match event.liveContext with
    | some previous =>
      if policy.within event.occurredAtUnixSecs previous.occurredAtUnixSecs then .context previous
      else .new
    | none => .new

/-- The attachment of `event`, which comes after the events `before`. -/
def attachment (policy : DeterministicThreadPolicy) (before : List ThreadProjectionEvent)
    (event : ThreadProjectionEvent) : Attachment :=
  match before.find? event.isReplyTo with
  | some parent => .reply parent
  | none =>
    if event.forceNewThread then .new
    else
      match event.storedReplyThread with
      | some threadId => .stored threadId
      | none => proximity policy before event

/-- The thread of an event with this attachment, whether it is new, and where it comes from. -/
def Attachment.choice (uuid : ℕ → String) (state : Planning) (event : ThreadProjectionEvent) :
    Attachment → Option (EventThreadId × Bool × SourceEventId)
  | .reply parent =>
    (state.assigned parent.sourceEventId.asStr).map fun threadId =>
      (threadId, false, parent.sourceEventId)
  | .stored threadId => some (threadId, false, event.replyToEventId.getD event.sourceEventId)
  | .latest previous =>
    (state.assigned previous.sourceEventId.asStr).map fun threadId =>
      (threadId, false, previous.sourceEventId)
  | .context previous => some (previous.threadId, false, previous.sourceEventId)
  | .new => some (⟨uuid state.drawn⟩, true, event.sourceEventId)

variable (policy) in
/-- The predecessor in the map, or else the one of the store. -/
theorem Tracks.previous_eq (h : Tracks before state) (hforce : event.forceNewThread = false) :
    event.previous policy state.latest =
      match proximity policy before event with
      | .latest previous => (state.assigned previous.sourceEventId.asStr).map previous.context
      | .context previous => some previous
      | _ => none := by
  rw [ThreadProjectionEvent.previous, hforce, proximity, h.latest event]
  cases hlat : latestOf before event with
  | some previous =>
    obtain ⟨assignment, -, -, -, hass⟩ := h.assigned previous (latestOf_mem hlat).1
    have hwithin : policy.within event.occurredAtUnixSecs
        (previous.context assignment.threadId).occurredAtUnixSecs =
          policy.within event.occurredAtUnixSecs previous.occurredAtUnixSecs := rfl
    rw [Option.bind_some, hass]
    cases hterm : event.previousThreadIsTerminal <;>
      cases hin : policy.within event.occurredAtUnixSecs previous.occurredAtUnixSecs <;>
        simp [Option.filter, hwithin, hin, hass]
  | none =>
    rw [ThreadProjectionEvent.liveContext]
    cases hterm : event.previousThreadIsTerminal with
    | true => simp
    | false =>
      cases hprev : event.previousInConversation with
      | none => simp
      | some previous =>
        cases hin : policy.within event.occurredAtUnixSecs previous.occurredAtUnixSecs <;>
          simp [Option.filter, hin]

theorem Tracks.parent_eq (h : Tracks before state) :
    (event.replyToEventId.bind fun id => state.assigned id.asStr) =
      (before.find? event.isReplyTo).bind fun parent =>
        state.assigned parent.sourceEventId.asStr := by
  cases hfnd : before.find? event.isReplyTo with
  | some parent =>
    have hreply := List.find?_some hfnd
    rw [of_decide_eq_true hreply]
    rfl
  | none =>
    cases hreply : event.replyToEventId with
    | none => rfl
    | some id =>
      refine h.unassigned id fun hmem => ?_
      obtain ⟨parent, hpar, rfl⟩ := List.mem_map.mp hmem
      exact List.find?_eq_none.mp hfnd parent hpar (decide_eq_true hreply)

/-- An event gets the thread of its attachment. -/
theorem Tracks.chooseThread_eq (h : Tracks before state) :
    some (event.chooseThread policy uuid state) =
      (attachment policy before event).choice uuid state event := by
  rw [ThreadProjectionEvent.chooseThread, ThreadProjectionEvent.replyThread, h.parent_eq, attachment]
  cases hfnd : before.find? event.isReplyTo with
  | some parent =>
    have hpar := List.find?_some hfnd
    have hreply : event.replyToEventId = some parent.sourceEventId := of_decide_eq_true hpar
    obtain ⟨assignment, -, -, -, hass⟩ :=
      h.assigned parent (List.mem_of_find?_eq_some hfnd)
    rw [Option.bind_some, hass]
    cases hforce : event.forceNewThread <;> simp [Attachment.choice, hass, hreply]
  | none =>
    cases hforce : event.forceNewThread with
    | true =>
      simp [ThreadProjectionEvent.previous, hforce, Attachment.choice]
    | false =>
      rw [h.previous_eq policy hforce]
      cases hstd : event.storedReplyThread with
      | some threadId => simp [Attachment.choice]
      | none =>
        rw [proximity]
        cases hlat : latestOf before event with
        | some previous =>
          obtain ⟨assignment, -, -, -, hass⟩ := h.assigned previous (latestOf_mem hlat).1
          cases hin : policy.within event.occurredAtUnixSecs previous.occurredAtUnixSecs <;>
            simp [Attachment.choice, hass, hin, ThreadProjectionEvent.context]
        | none =>
          cases hctx : event.liveContext with
          | none => simp [Attachment.choice]
          | some previous =>
            cases hin : policy.within event.occurredAtUnixSecs previous.occurredAtUnixSecs <;>
              simp [Attachment.choice, hin]

end ServerRS.Threading

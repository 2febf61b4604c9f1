import ServerRS.Lib.Folds
import ServerRS.Threading.Plans

/-!
# The nearest predecessor

By proximity an event should join the thread of the latest event before it in its conversation. The
planner keeps the event it planned last, and that need not be the latest one: a reply is planned after
its parent, whatever its time (`new_thread_beside_predecessor`), and an event of the batch hides one
of the store. `nearest_iff`: an event joins the thread of its nearest predecessor exactly when the
event that was planned last in its conversation is in that thread, or there is none.
-/

namespace ServerRS.Threading

open Lib

/-! ## Predecessors -/

def ThreadContextEvent.byTime (self : ThreadContextEvent) : ℤ ×ₗ String :=
  self.sourceEventId.atTime self.occurredAtUnixSecs

def ThreadProjectionPlan.threadOf (self : ThreadProjectionPlan) (id : SourceEventId) :
    Option EventThreadId :=
  (self.assignments.find? fun assignment => decide (assignment.sourceEventId = id)).map
    ThreadAssignment.threadId

/-- The events that were planned before `event`, with their threads, and the one of the store. -/
def candidates (threadOf : SourceEventId → Option EventThreadId)
    (before : List ThreadProjectionEvent) (event : ThreadProjectionEvent) : List ThreadContextEvent :=
  (before.filterMap fun earlier => (threadOf earlier.sourceEventId).map earlier.context) ++
    event.previousInConversation.toList

/-- An event of the same conversation that comes before `event` within the window, and whose thread
is not finished. -/
structure Precedes (store : Store) (policy : DeterministicThreadPolicy)
    (event : ThreadProjectionEvent) (previous : ThreadContextEvent) : Prop where
  conversation : store.SameConversation previous.sourceEventId event
  earlier : previous.byTime < event.byTime
  within : policy.within event.occurredAtUnixSecs previous.occurredAtUnixSecs = true
  live : ¬ store.HasThread previous.threadId true

/-- The latest of the events that precede `event`. -/
structure Nearest (store : Store) (policy : DeterministicThreadPolicy)
    (threadOf : SourceEventId → Option EventThreadId) (before : List ThreadProjectionEvent)
    (event : ThreadProjectionEvent) (previous : ThreadContextEvent) : Prop where
  mem : previous ∈ candidates threadOf before event
  precedes : Precedes store policy event previous
  last : ∀ other ∈ candidates threadOf before event, Precedes store policy event other →
    other.byTime ≤ previous.byTime

/-- By proximity an event joins its nearest predecessor, and with a predecessor it does not get a
thread of its own. -/
structure JoinsNearest (store : Store) (policy : DeterministicThreadPolicy)
    (plan : ThreadProjectionPlan) (before : List ThreadProjectionEvent)
    (event : ThreadProjectionEvent) : Prop where
  attached : ∀ assignment ∈ plan.assignments, assignment.sourceEventId = event.sourceEventId →
    assignment.createsThread = false → assignment.rootEventId ≠ event.sourceEventId →
      ∃ previous, Nearest store policy plan.threadOf before event previous ∧
        assignment.threadId = previous.threadId
  opened : ∀ assignment ∈ plan.assignments, assignment.sourceEventId = event.sourceEventId →
    (∃ previous ∈ candidates plan.threadOf before event, Precedes store policy event previous) →
      assignment.createsThread = false

/-- The event that was planned last in the conversation of `event` is in the thread of the nearest
predecessor when it is within the window, and nothing precedes `event` when it is not. -/
def LastIsNearest (store : Store) (policy : DeterministicThreadPolicy)
    (threadOf : SourceEventId → Option EventThreadId) (before : List ThreadProjectionEvent)
    (event : ThreadProjectionEvent) : Prop :=
  ∀ last, latestOf before event = some last →
    if policy.within event.occurredAtUnixSecs last.occurredAtUnixSecs then
      ∃ previous, Nearest store policy threadOf before event previous ∧
        threadOf last.sourceEventId = some previous.threadId
    else ∀ previous ∈ candidates threadOf before event, ¬ Precedes store policy event previous

/-- The threads of the events that have been planned. -/
def Planning.threadOf (self : Planning) (id : SourceEventId) : Option EventThreadId :=
  self.assigned id.asStr

variable {policy : DeterministicThreadPolicy} {uuid : ℕ → String} {store : Store} {window : Int}
  {state : Planning} {before after : List ThreadProjectionEvent}
  {event : ThreadProjectionEvent} {previous : ThreadContextEvent}
  {threadOf threadOf' : SourceEventId → Option EventThreadId}

/-! ## The events of the batch and the event of the store -/

theorem mem_candidates : previous ∈ candidates threadOf before event ↔
    (∃ earlier ∈ before, (threadOf earlier.sourceEventId).map earlier.context = some previous) ∨
      event.previousInConversation = some previous := by
  rw [candidates, List.mem_append, List.mem_filterMap, Option.mem_toList]

theorem candidates_congr
    (h : ∀ earlier ∈ before, threadOf earlier.sourceEventId = threadOf' earlier.sourceEventId) :
    candidates threadOf before event = candidates threadOf' before event := by
  rw [candidates, candidates]
  congr 1
  refine List.filterMap_congr fun earlier hear => ?_
  rw [h earlier hear]

theorem Together.conversationKey_eq {earlier : ThreadProjectionEvent} (h : Together event earlier) :
    earlier.conversationKey = event.conversationKey := by
  rw [ThreadProjectionEvent.conversationKey, h.1, h.2]
  rfl

/-- Where the conversation has no event in the batch, only the store has a predecessor. -/
theorem precedes_of_latestOf_none (hkeyed : store.Keyed)
    (hsup : ∀ event ∈ before, store.Supplied window event)
    (hnone : latestOf before event = none) (hmem : previous ∈ candidates threadOf before event)
    (h : Precedes store policy event previous) : event.previousInConversation = some previous := by
  rcases mem_candidates.mp hmem with ⟨earlier, hear, hctx⟩ | hprev
  · obtain ⟨threadId, -, rfl⟩ := Option.map_eq_some_iff.mp hctx
    have htog := (sameConversation_iff hkeyed (hsup earlier hear)).mp h.conversation
    exact absurd htog.conversationKey_eq (latestOf_eq_none hnone earlier hear)
  · exact hprev

theorem live_iff (hkeyed : store.Keyed) (hev : store.Supplied window event)
    (hprev : event.previousInConversation = some previous) :
    ¬ store.HasThread previous.threadId true ↔ event.liveContext = some previous := by
  obtain ⟨-, -, -, thread, hthr, hid, hterm⟩ := hev.previous previous hprev
  rw [ThreadProjectionEvent.liveContext]
  cases hflag : event.previousThreadIsTerminal with
  | true =>
    rw [hflag] at hterm
    exact iff_of_false (not_not_intro ⟨thread, hthr, hid, hterm⟩) (by simp)
  | false =>
    refine iff_of_true ?_ hprev
    rintro ⟨other, hoth, hsame, hfin⟩
    rw [eq_of_key_eq hkeyed.threads hoth hthr (hsame.trans hid.symm), hterm, hflag]
      at hfin
    cases hfin

/-- The event of the store precedes `event` unless its thread is finished or the window has passed. -/
theorem precedes_stored_iff (hkeyed : store.Keyed) (hev : store.Supplied window event)
    (hprev : event.previousInConversation = some previous) :
    Precedes store policy event previous ↔ event.liveContext = some previous ∧
      policy.within event.occurredAtUnixSecs previous.occurredAtUnixSecs = true := by
  obtain ⟨hsame, hear, -, -⟩ := hev.previous previous hprev
  rw [← live_iff hkeyed hev hprev]
  exact ⟨fun h => ⟨h.live, h.within⟩, fun h => ⟨hsame, hear, h.2, h.1⟩⟩

/-! ## One event -/

/-- What an event without a reply thread should get. -/
def Joins (store : Store) (policy : DeterministicThreadPolicy)
    (threadOf : SourceEventId → Option EventThreadId) (before : List ThreadProjectionEvent)
    (event : ThreadProjectionEvent) (choice : EventThreadId × Bool × SourceEventId) : Prop :=
  (choice.2.1 = false → choice.2.2 ≠ event.sourceEventId →
    ∃ previous, Nearest store policy threadOf before event previous ∧ choice.1 = previous.threadId) ∧
  ((∃ previous ∈ candidates threadOf before event, Precedes store policy event previous) →
    choice.2.1 = false)

variable {threadId : EventThreadId}

theorem joins_new_iff :
    Joins store policy threadOf before event (threadId, true, event.sourceEventId) ↔
      ∀ previous ∈ candidates threadOf before event, ¬ Precedes store policy event previous := by
  rw [Joins]
  constructor
  · intro h previous hmem hprec
    exact Bool.noConfusion (h.2 ⟨previous, hmem, hprec⟩)
  · intro h
    refine ⟨fun hnew => Bool.noConfusion hnew, ?_⟩
    rintro ⟨previous, hmem, hprec⟩
    exact absurd hprec (h previous hmem)

theorem joins_old_iff {root : SourceEventId} (hroot : root ≠ event.sourceEventId) :
    Joins store policy threadOf before event (threadId, false, root) ↔
      ∃ previous, Nearest store policy threadOf before event previous ∧
        threadId = previous.threadId := by
  rw [Joins]
  exact ⟨fun h => h.1 rfl hroot, fun h => ⟨fun _ _ => h, fun _ => rfl⟩⟩

/-- An event without a parent is drawn into the thread of a reply to it, and else by proximity. -/
theorem attachment_of_no_reply (hreply : event.replyToEventId = none) :
    attachment policy before event =
      event.storedReplyThread.elim (proximity policy before event) Attachment.stored := by
  have hpar : before.find? event.isReplyTo = none := by
    rw [List.find?_eq_none]
    intro earlier _
    rw [ThreadProjectionEvent.isReplyTo, hreply]
    exact Bool.false_ne_true
  rw [attachment, hpar]
  dsimp only
  rw [forceNewThread_of_none hreply]
  cases event.storedReplyThread
  · rfl
  · rfl

theorem joins_iff (hkeyed : store.Keyed) (htrk : Tracks before state)
    (hsup : ∀ event ∈ before, store.Supplied window event) (hev : store.Supplied window event)
    (hne : ∀ earlier ∈ before, earlier.sourceEventId ≠ event.sourceEventId)
    (hreply : event.replyToEventId = none) :
    Joins store policy state.threadOf before event (event.chooseThread policy uuid state) ↔
      (event.storedReplyThread = none → LastIsNearest store policy state.threadOf before event) := by
  have hatt : attachment policy before event =
      event.storedReplyThread.elim (proximity policy before event) Attachment.stored :=
    attachment_of_no_reply hreply
  cases hstd : event.storedReplyThread with
  | some threadId =>
    -- The event is drawn into the thread of a reply to it, whatever precedes it.
    rw [hstd] at hatt
    rw [htrk.choice_eq uuid hatt rfl, hreply, Joins]
    refine iff_of_true ⟨fun _ hroot => absurd rfl hroot, fun _ => rfl⟩ ?_
    intro hnone
    cases hnone
  | none =>
    rw [hstd, Option.elim_none] at hatt
    have honly : (none = (none : Option EventThreadId) →
        LastIsNearest store policy state.threadOf before event) ↔
          LastIsNearest store policy state.threadOf before event := ⟨fun h => h rfl, fun h _ => h⟩
    rw [honly]
    cases hlat : latestOf before event with
    | some last =>
      have hmem := (latestOf_mem hlat).1
      have hlast : LastIsNearest store policy state.threadOf before event ↔
          if policy.within event.occurredAtUnixSecs last.occurredAtUnixSecs then
            ∃ previous, Nearest store policy state.threadOf before event previous ∧
              state.threadOf last.sourceEventId = some previous.threadId
          else ∀ previous ∈ candidates state.threadOf before event,
            ¬ Precedes store policy event previous := by
        rw [LastIsNearest, hlat]
        constructor
        · intro h
          exact h last rfl
        · rintro h _ ⟨⟩
          exact h
      rw [hlast]
      rw [proximity, hlat] at hatt
      dsimp only at hatt
      split
      · next hin =>
        rw [if_pos hin] at hatt
        obtain ⟨assignment, hassignment, hid, -, hass⟩ := htrk.assigned last hmem
        have hthr : state.threadOf last.sourceEventId = some assignment.threadId := hass
        have hchoice : event.chooseThread policy uuid state =
            (assignment.threadId, false, last.sourceEventId) := by
          refine htrk.choice_eq uuid hatt ?_
          rw [Attachment.choice, hass]
          rfl
        rw [hchoice, joins_old_iff (hne last hmem), hthr]
        simp only [Option.some_inj]
      · next hout =>
        rw [if_neg hout] at hatt
        rw [htrk.choice_eq uuid hatt rfl, joins_new_iff]
    | none =>
      have htrue : LastIsNearest store policy state.threadOf before event := by
        rw [LastIsNearest, hlat]
        intro last hlast
        cases hlast
      refine iff_of_true ?_ htrue
      rw [proximity, hlat] at hatt
      dsimp only at hatt
      have hstoredOnly : ∀ previous ∈ candidates state.threadOf before event,
          Precedes store policy event previous → event.liveContext = some previous ∧
            policy.within event.occurredAtUnixSecs previous.occurredAtUnixSecs = true := by
        intro previous hmem hprec
        have hprev := precedes_of_latestOf_none hkeyed hsup hlat hmem hprec
        exact (precedes_stored_iff hkeyed hev hprev).mp hprec
      cases hlive : event.liveContext with
      | none =>
        rw [hlive] at hatt
        rw [htrk.choice_eq uuid hatt rfl, joins_new_iff]
        intro previous hmem hprec
        cases hlive.symm.trans (hstoredOnly previous hmem hprec).1
      | some previous =>
        obtain ⟨-, hprev, hsame, -⟩ := liveContext_spec hev hlive
        rw [hlive] at hatt
        dsimp only at hatt
        split at hatt
        · next hin =>
          rw [htrk.choice_eq uuid hatt rfl,
            joins_old_iff (hev.distinct previous hprev)]
          refine ⟨previous, ⟨mem_candidates.mpr (.inr hprev),
            (precedes_stored_iff hkeyed hev hprev).mpr ⟨hlive, hin⟩, ?_⟩, rfl⟩
          intro other hmem hprec
          rw [Option.some.inj (hlive.symm.trans (hstoredOnly other hmem hprec).1)]
        · next hout =>
          rw [htrk.choice_eq uuid hatt rfl, joins_new_iff]
          intro other hmem hprec
          obtain ⟨hsame, hin⟩ := hstoredOnly other hmem hprec
          rw [← Option.some.inj (hlive.symm.trans hsame)] at hin
          exact hout hin

/-! ## A plan -/

section Plan

variable {request : ClaimRequest} {batch : ClaimedThreadProjectionBatch}

section

variable (hnd : (batch.order.map ThreadProjectionEvent.sourceEventId).Nodup)
include hnd

/-- The assignment of an event is that of its round. -/
theorem eq_assignmentOf
    (hspl : batch.order = before ++ event :: after) {assignment : ThreadAssignment}
    (hmem : assignment ∈ (plan policy uuid batch).assignments)
    (hid : assignment.sourceEventId = event.sourceEventId) :
    assignment = assignmentOf policy uuid (planAll policy uuid before) event := by
  obtain ⟨first, other, second, hfst, rfl⟩ := mem_assignments.mp hmem
  obtain ⟨rfl, rfl, -⟩ := split_unique hnd hspl hfst hid.symm
  rfl

/-- Events keep the threads they get. -/
theorem threadOf_plan
    (hspl : batch.order = before ++ event :: after) {earlier : ThreadProjectionEvent}
    (hear : earlier ∈ before) : (plan policy uuid batch).threadOf earlier.sourceEventId =
      (planAll policy uuid before).threadOf earlier.sourceEventId := by
  have hbef : (before.map ThreadProjectionEvent.sourceEventId).Nodup :=
    hnd.sublist (hspl ▸ (List.sublist_append_left _ _).map _)
  have htrk : Tracks before (planAll policy uuid before) := tracks_planAll hbef
  obtain ⟨assignment, hmem, hid, -, hass⟩ := htrk.assigned earlier hear
  have hplan : assignment ∈ (plan policy uuid batch).assignments := by
    obtain ⟨first, other, second, hfst, rfl⟩ := mem_assignments.mp hmem
    refine mem_assignments.mpr ⟨first, other, second ++ event :: after, ?_, rfl⟩
    rw [hspl, hfst, List.append_assoc, List.cons_append]
  have hids : ((plan policy uuid batch).assignments.map ThreadAssignment.sourceEventId).Nodup := by
    rw [plan_assignments, map_sourceEventId_assignments]
    exact hnd
  rw [ThreadProjectionPlan.threadOf, ← hid, find?_key hids hplan, hid]
  exact hass.symm

theorem joinsNearest_iff (hspl : batch.order = before ++ event :: after) :
    JoinsNearest store policy (plan policy uuid batch) before event ↔
      Joins store policy (planAll policy uuid before).threadOf before event
        (event.chooseThread policy uuid (planAll policy uuid before)) := by
  have hcands : candidates (plan policy uuid batch).threadOf before event =
      candidates (planAll policy uuid before).threadOf before event :=
    candidates_congr fun _ hear => threadOf_plan hnd hspl hear
  have hnear : Nearest store policy (plan policy uuid batch).threadOf before event =
      Nearest store policy (planAll policy uuid before).threadOf before event := by
    funext previous
    refine propext ⟨fun h => ?_, fun h => ?_⟩
    · exact ⟨hcands ▸ h.mem, h.precedes, hcands ▸ h.last⟩
    · exact ⟨hcands ▸ h.mem, h.precedes, hcands ▸ h.last⟩
  have hown : assignmentOf policy uuid (planAll policy uuid before) event ∈
      (plan policy uuid batch).assignments :=
    mem_assignments.mpr ⟨before, event, after, hspl, rfl⟩
  constructor
  · intro h
    have hattac := h.attached _ hown rfl
    have hopen := h.opened _ hown rfl
    rw [hnear] at hattac
    rw [hcands] at hopen
    exact ⟨hattac, hopen⟩
  · intro h
    refine ⟨fun assignment hmem hid => ?_, fun assignment hmem hid => ?_⟩
    · rw [eq_assignmentOf hnd hspl hmem hid, hnear]
      exact h.1
    · rw [eq_assignmentOf hnd hspl hmem hid, hcands]
      exact h.2

end

/-- Each event without a reply joins its nearest predecessor if and only if, whenever the store has no
reply thread for it, the event planned last in its conversation is in that predecessor's thread. -/
theorem nearest_iff (hclaim : (claimProjectionBatch request store).1 = some batch)
    (hkeyed : store.Keyed) :
    AllSplits (fun before event => event.replyToEventId = none →
        JoinsNearest store policy (plan policy uuid batch) before event) batch.order ↔
      AllSplits (fun before event => event.replyToEventId = none → event.storedReplyThread = none →
        LastIsNearest store policy (planAll policy uuid before).threadOf before event) batch.order := by
  have hsup := supplied_claim hkeyed hclaim
  have hnd : (batch.order.map ThreadProjectionEvent.sourceEventId).Nodup :=
    (order_perm.map _).nodup_iff.mpr (nodup_claim hkeyed hclaim)
  refine allSplits_congr fun before event after hspl _ => imp_congr_right fun hreply => ?_
  have hmem : ∀ other ∈ before, other ∈ batch.events := fun other hoth =>
    order_perm.subset (hspl ▸ List.mem_append_left _ hoth)
  have hev : event ∈ batch.events :=
    order_perm.subset (hspl ▸ List.mem_append_right _ List.mem_cons_self)
  rw [hspl, List.map_append, List.map_cons] at hnd
  have hne : ∀ earlier ∈ before, earlier.sourceEventId ≠ event.sourceEventId := by
    intro earlier hear
    exact (List.nodup_append.mp hnd).2.2 _ (List.mem_map_of_mem hear) _ List.mem_cons_self
  rw [joinsNearest_iff (by rw [hspl, List.map_append, List.map_cons]; exact hnd) hspl]
  exact joins_iff hkeyed (tracks_planAll hnd.of_append_left)
    (fun other hoth => hsup other (hmem other hoth)) (hsup event hev) hne hreply

end Plan

/-! ## A late reply -/

namespace Scripted

theorem strokes_not_blank (n : ℕ) : isBlank (strokes n) = false := by
  rw [isBlank, strokes, String.toList_ofList, List.replicate_succ, List.all_cons]
  rfl

def messageId (n : ℕ) : SourceEventId := ⟨strokes n, strokes_not_blank n⟩

/-- A reply whose time is 100 to a message of 500, with one message of 110 and one of 600. -/
def lateReply : Store :=
  storeOf [
    { message (messageId 0) "1" "x" 100 with replyToEventId := some (messageId 2) },
    message (messageId 1) "1" "x" 110, message (messageId 2) "1" "x" 500,
    message (messageId 3) "1" "x" 600]

end Scripted

section Scripted

open Scripted

/-- The second of two messages joins the thread of the first one. -/
theorem nearest_one_conversation : AllSplits (fun before event => event.replyToEventId = none →
    JoinsNearest (twoMessages "1" "1" "x:group:y") fiveMinutes
      (plan fiveMinutes strokes (batchOf (twoMessages "1" "1" "x:group:y"))) before event)
        (batchOf (twoMessages "1" "1" "x:group:y")).order := by
  have hcl : (claimProjectionBatch claimAll (twoMessages "1" "1" "x:group:y")).1 =
      some (batchOf (twoMessages "1" "1" "x:group:y")) := by decide
  have hkeyed : (twoMessages "1" "1" "x:group:y").Keyed := by constructor <;> decide
  refine (nearest_iff hcl hkeyed).mpr ?_
  obtain ⟨first, hfst⟩ : ∃ first, first = (twoMessages "1" "1" "x:group:y").projectionEvent 300
    (message ⟨"event-one", firstId_not_blank⟩ "1" "x:group:y" 100) := ⟨_, rfl⟩
  obtain ⟨second, hsec⟩ : ∃ second, second = (twoMessages "1" "1" "x:group:y").projectionEvent 300
    (message ⟨"event-two", secondId_not_blank⟩ "1" "x:group:y" 150) := ⟨_, rfl⟩
  have hord : (batchOf (twoMessages "1" "1" "x:group:y")).order = [first, second] := by
    rw [hfst, hsec]
    decide
  rw [hord, allSplits_pair]
  refine ⟨fun _ _ last hlast => (by cases (latestOf_mem hlast).1), fun _ _ last hlast => ?_⟩
  rw [List.mem_singleton.mp (latestOf_mem hlast).1]
  have hthr : (planAll fiveMinutes strokes [first]).threadOf first.sourceEventId =
      some ⟨strokes 0⟩ := by
    rw [hfst]
    decide
  have hcands : candidates (planAll fiveMinutes strokes [first]).threadOf [first] second =
      [first.context ⟨strokes 0⟩] := by
    rw [hfst, hsec]
    decide
  have hprec : Precedes (twoMessages "1" "1" "x:group:y") fiveMinutes second
      (first.context ⟨strokes 0⟩) := by
    rw [hfst, hsec]
    refine ⟨by decide, by decide, by decide, ?_⟩
    rintro ⟨thread, hthr, -⟩
    cases hthr
  have hin : fiveMinutes.within second.occurredAtUnixSecs first.occurredAtUnixSecs = true := by
    rw [hfst, hsec]
    decide
  rw [if_pos hin]
  refine ⟨_, ⟨hcands ▸ List.mem_singleton_self _, hprec, fun other hoth _ => ?_⟩, hthr⟩
  rw [hcands, List.mem_singleton] at hoth
  rw [hoth]

/-- The message of 600 gets a thread of its own, beside that of the message of 500. -/
theorem new_thread_beside_predecessor : ¬ ∀ (request : ClaimRequest) (store : Store)
    (batch : ClaimedThreadProjectionBatch) (policy : DeterministicThreadPolicy) (uuid : ℕ → String),
    (claimProjectionBatch request store).1 = some batch → store.Keyed → Fresh uuid store →
      AllSplits (fun before event => event.replyToEventId = none →
        JoinsNearest store policy (plan policy uuid batch) before event) batch.order := by
  intro hall
  have hcl : (claimProjectionBatch claimAll lateReply).1 = some (batchOf lateReply) := by
    decide
  have hkeyed : lateReply.Keyed := by constructor <;> decide
  have hjoins := hall claimAll lateReply (batchOf lateReply) fiveMinutes strokes hcl hkeyed
    (strokes_fresh _)
  have hord : (batchOf lateReply).order = (batchOf lateReply).order.take 3 ++
      lateReply.projectionEvent 300 (message (messageId 3) "1" "x" 600) :: [] := by decide
  have hlast := hjoins _ _ _ hord rfl
  have hopen := hlast.opened ⟨messageId 3, ⟨strokes 3⟩, ⟨.napCat, "1"⟩, messageId 3, 600, true⟩
    (by decide) rfl
  have hnew := hopen ⟨⟨messageId 2, ⟨strokes 1⟩, "alice", 500⟩, by decide, ?_⟩
  · cases hnew
  · refine ⟨by decide, by decide, by decide, ?_⟩
    rintro ⟨thread, hthr, -⟩
    cases hthr

end Scripted

end ServerRS.Threading

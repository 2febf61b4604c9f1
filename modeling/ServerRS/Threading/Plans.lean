import ServerRS.Threading.Trace

/-!
# Well-formed plans

A plan of a claimed batch assigns each event once, a parent before its reply, creates each new thread
once and attaches nothing to a finished thread. What the planner takes for an event of the same
conversation is one with the same key, and two conversations whose names hold colons may share theirs
(`shared_key`): `plan_wellFormed_iff` says that a plan is well formed exactly when no event is attached
across conversations, and what the store supplies is of the event's account.
-/

namespace ServerRS.Threading

open Lib

/-! ## What a plan should be -/

/-- `Uuid::new_v4()` never repeats an identifier, nor draws that of a thread. -/
structure Fresh (uuid : ℕ → String) (store : Store) : Prop where
  injective : Function.Injective uuid
  new : ∀ n, ⟨uuid n⟩ ∉ store.threads.map EventThreadRow.threadId

/-- The thread is an unfinished one of the store, or made earlier by the plan, in the account. -/
def Origin (store : Store) (earlier : List ThreadAssignment) (threadId : EventThreadId)
    (account : SourceAccountRef) : Prop :=
  (∃ thread ∈ store.threads, thread.threadId = threadId ∧ thread.isTerminal = false ∧
    thread.account = account) ∨
  ∃ assignment ∈ earlier, assignment.createsThread = true ∧ assignment.threadId = threadId ∧
    assignment.account = account

def Attached (store : Store) (earlier : List ThreadAssignment) (assignment : ThreadAssignment) :
    Prop :=
  assignment.createsThread = false → Origin store earlier assignment.threadId assignment.account

def CreatesNew (store : Store) (earlier : List ThreadAssignment) (assignment : ThreadAssignment) :
    Prop :=
  assignment.createsThread = true →
    assignment.threadId ∉ earlier.map ThreadAssignment.threadId ∧
      assignment.threadId ∉ store.threads.map EventThreadRow.threadId

/-- An assignment comes from the event itself, its parent, or an event of the same conversation. -/
def Rooted (store : Store) (event : ThreadProjectionEvent) (assignment : ThreadAssignment) : Prop :=
  assignment.rootEventId = event.sourceEventId ∨
    event.replyToEventId = some assignment.rootEventId ∨
      store.SameConversation assignment.rootEventId event

/-- The relation is one of the event, and says why the event has its assignment. -/
structure Explains (event : ThreadProjectionEvent) (assignment : ThreadAssignment)
    (relation : ThreadRelation) : Prop where
  source : relation.fromEventId = event.sourceEventId
  thread : relation.threadId = assignment.threadId
  reply : relation.kind = .reply → event.replyToEventId = some relation.toEventId
  window : relation.kind ≠ .reply → event.replyToEventId = none ∧
    (assignment.rootEventId = relation.toEventId ∨ assignment.rootEventId = event.sourceEventId)

structure WellFormed (store : Store) (batch : ClaimedThreadProjectionBatch)
    (plan : ThreadProjectionPlan) : Prop where
  permutation : (plan.assignments.map ThreadAssignment.sourceEventId).Perm
    (batch.events.map ThreadProjectionEvent.sourceEventId)
  once : (plan.assignments.map ThreadAssignment.sourceEventId).Nodup
  parentsFirst : ∀ event ∈ batch.events,
    Acyclic ThreadProjectionEvent.isReplyTo batch.events event →
    ∀ parent ∈ batch.events, event.isReplyTo parent = true →
      [parent.sourceEventId, event.sourceEventId].Sublist
        (plan.assignments.map ThreadAssignment.sourceEventId)
  creates : AllSplits (CreatesNew store) plan.assignments
  createdOnce : ((plan.assignments.filter ThreadAssignment.createsThread).map
    ThreadAssignment.threadId).Nodup
  attached : AllSplits (Attached store) plan.assignments
  rooted : ∀ event ∈ batch.events, ∀ assignment ∈ plan.assignments,
    assignment.sourceEventId = event.sourceEventId → Rooted store event assignment
  windows : ∀ relation ∈ plan.relations, relation.kind ≠ .reply → ∀ event ∈ batch.events,
    relation.fromEventId = event.sourceEventId → store.SameConversation relation.toEventId event
  relations : ∀ relation ∈ plan.relations, ∃ event ∈ batch.events, ∃ assignment ∈ plan.assignments,
    assignment.sourceEventId = event.sourceEventId ∧ Explains event assignment relation

/-! ## When it is -/

/-- If the store has the thread, it is one of the account. -/
def Store.AccountOf (store : Store) (threadId : EventThreadId) (account : SourceAccountRef) : Prop :=
  ∀ thread ∈ store.threads, thread.threadId = threadId → thread.account = account

/-- Both events are in one conversation. -/
def Together (event previous : ThreadProjectionEvent) : Prop :=
  previous.account = event.account ∧ previous.conversation = event.conversation

/-- What `event` is attached to lies in its account, and by proximity in its conversation. -/
structure Clear (store : Store) (policy : DeterministicThreadPolicy)
    (before : List ThreadProjectionEvent) (event : ThreadProjectionEvent) : Prop where
  attachment :
    match attachment policy before event with
    | .reply parent => parent.account = event.account
    | .stored threadId => store.AccountOf threadId event.account
    | .latest previous => Together event previous
    | .context previous => store.AccountOf previous.threadId event.account
    | .new => True
  window : event.replyToEventId = none → ∀ previous,
    proximity policy before event = .latest previous → Together event previous

variable {policy : DeterministicThreadPolicy} {uuid : ℕ → String} {store : Store} {window : Int}
  {state : Planning} {events before after : List ThreadProjectionEvent}
  {event previous : ThreadProjectionEvent} {assignments : List ThreadAssignment}
  {threadId : EventThreadId} {account account' : SourceAccountRef}

/-! ## Threads and their accounts -/

theorem Origin.mono {more : List ThreadAssignment} (h : Origin store assignments threadId account)
    (hsubset : assignments ⊆ more) : Origin store more threadId account :=
  h.imp_right fun hmade => hmade.imp fun _ hass => ⟨hsubset hass.1, hass.2⟩

theorem nodup_created (h : AllSplits (CreatesNew store) assignments) :
    ((assignments.filter ThreadAssignment.createsThread).map ThreadAssignment.threadId).Nodup := by
  have hpair : assignments.Pairwise fun earlier assignment =>
      assignment.createsThread = true → earlier.threadId ≠ assignment.threadId := by
    refine allSplits_pairwise.mp fun before assignment after hspl earlier hear hcre heq => ?_
    exact (h before assignment after hspl hcre).1 (heq ▸ List.mem_map_of_mem hear)
  rw [List.Nodup, List.pairwise_map, List.pairwise_filter]
  exact hpair.imp fun hne _ hcre => hne hcre

variable {assignment : ThreadAssignment} {relation : ThreadRelation} {root : SourceEventId}

theorem not_stored_of_creates (h : AllSplits (CreatesNew store) assignments)
    (hmem : assignment ∈ assignments) (hcre : assignment.createsThread = true) :
    assignment.threadId ∉ store.threads.map EventThreadRow.threadId := by
  obtain ⟨before, after, hspl⟩ := List.append_of_mem hmem
  exact (h before assignment after hspl hcre).2

theorem Origin.account_eq (hkeyed : store.Keyed) (hnew : AllSplits (CreatesNew store) assignments)
    (h : Origin store assignments threadId account) (h' : Origin store assignments threadId account') :
    account = account' := by
  rcases h with ⟨thread, hthr, hid, -, rfl⟩ | ⟨made, hmade, hcre, hid, rfl⟩ <;>
    rcases h' with ⟨thread', hthr', hid', -, rfl⟩ | ⟨made', hmade', hcre', hid', rfl⟩
  · rw [eq_of_key_eq hkeyed.threads hthr hthr' (hid.trans hid'.symm)]
  · refine absurd ?_ (not_stored_of_creates hnew hmade' hcre')
    exact hid'.trans hid.symm ▸ List.mem_map_of_mem hthr
  · refine absurd ?_ (not_stored_of_creates hnew hmade hcre)
    exact hid.trans hid'.symm ▸ List.mem_map_of_mem hthr'
  · rw [eq_of_key_eq (nodup_created hnew) (List.mem_filter.mpr ⟨hmade, hcre⟩)
      (List.mem_filter.mpr ⟨hmade', hcre'⟩) (hid.trans hid'.symm)]

/-- In a plan whose assignments are attached, each is to a thread of its account. -/
theorem origin_of_attached (h : AllSplits (Attached store) assignments)
    (hmem : assignment ∈ assignments) :
    Origin store assignments assignment.threadId assignment.account := by
  cases hcre : assignment.createsThread with
  | true => exact .inr ⟨assignment, hmem, hcre, rfl, rfl⟩
  | false =>
    obtain ⟨before, after, hspl⟩ := List.append_of_mem hmem
    refine (h before assignment after hspl hcre).mono ?_
    rw [hspl]
    exact List.subset_append_left _ _

/-- A thread of the store is of the account of its row. -/
theorem origin_stored_iff (hkeyed : store.Keyed) (hnew : AllSplits (CreatesNew store) assignments)
    (hthr : store.HasThread threadId false) :
    Origin store assignments threadId account ↔ store.AccountOf threadId account := by
  obtain ⟨thread, hmem, hid, hterm⟩ := hthr
  have horig : Origin store assignments threadId thread.account :=
    .inl ⟨thread, hmem, hid, hterm, rfl⟩
  constructor
  · intro h other hoth hsame
    rw [eq_of_key_eq hkeyed.threads hoth hmem (hsame.trans hid.symm)]
    exact horig.account_eq hkeyed hnew h
  · intro h
    exact h thread hmem hid ▸ horig

theorem sameConversation_iff (hkeyed : store.Keyed) (h : store.Supplied window previous) :
    store.SameConversation previous.sourceEventId event ↔ Together event previous := by
  obtain ⟨row, hrow, hid, hacc, hconv⟩ := h.row
  rw [Together, ← hacc, ← hconv]
  constructor
  · rintro ⟨other, hoth, hother_id, hsame⟩
    rwa [← eq_of_key_eq hkeyed.events hoth hrow (hother_id.trans hid.symm)]
  · intro hsame
    exact ⟨row, hrow, hid, hsame⟩

theorem storedReplyThread_spec (h : store.Supplied window event)
    (hstd : event.storedReplyThread = some threadId) : store.HasThread threadId false := by
  rcases Option.or_eq_some_iff.mp hstd with hpar | ⟨-, hchild⟩
  · obtain ⟨hsome, hlive⟩ := Option.filter_eq_some_iff.mp hpar
    rw [Bool.not_eq_true'] at hlive
    exact hlive ▸ h.parent threadId hsome
  · obtain ⟨hsome, hlive⟩ := Option.filter_eq_some_iff.mp hchild
    rw [Bool.not_eq_true'] at hlive
    exact hlive ▸ h.child threadId hsome

theorem liveContext_spec (h : store.Supplied window event) {previous : ThreadContextEvent}
    (hlive : event.liveContext = some previous) : event.previousThreadIsTerminal = false ∧
      event.previousInConversation = some previous ∧
      store.SameConversation previous.sourceEventId event ∧
      store.HasThread previous.threadId false := by
  rw [ThreadProjectionEvent.liveContext] at hlive
  split at hlive
  · cases hlive
  · next hterm =>
    rw [Bool.not_eq_true] at hterm
    obtain ⟨hsame, -, -, hthr⟩ := h.previous previous hlive
    exact ⟨hterm, hlive, hsame, hterm ▸ hthr⟩

/-! ## The attachments of a round -/

theorem proximity_latest (h : proximity policy before event = .latest previous) :
    latestOf before event = some previous := by
  rw [proximity] at h
  split at h
  · next found hfnd =>
    split at h
    · cases h
      exact hfnd
    · cases h
  · split at h
    · split at h <;> cases h
    · cases h

theorem proximity_context {previous : ThreadContextEvent}
    (h : proximity policy before event = .context previous) :
    latestOf before event = none ∧ event.liveContext = some previous ∧
      policy.within event.occurredAtUnixSecs previous.occurredAtUnixSecs = true := by
  rw [proximity] at h
  split at h
  · split at h <;> cases h
  · next hnone =>
    split at h
    · next found hfnd =>
      split at h
      · next hin =>
        cases h
        exact ⟨hnone, hfnd, hin⟩
      · cases h
    · cases h

variable (policy before event) in
theorem proximity_cases : (∃ previous, proximity policy before event = .latest previous) ∨
    (∃ previous, proximity policy before event = .context previous) ∨
      proximity policy before event = .new := by
  rw [proximity]
  split
  · split
    · exact .inl ⟨_, rfl⟩
    · exact .inr (.inr rfl)
  · split
    · split
      · exact .inr (.inl ⟨_, rfl⟩)
      · exact .inr (.inr rfl)
    · exact .inr (.inr rfl)

theorem forceNewThread_of_none (h : event.replyToEventId = none) : event.forceNewThread = false := by
  rw [ThreadProjectionEvent.forceNewThread, h]
  rfl

theorem mem_newRelations_reply {parentId : SourceEventId}
    (hreply : event.replyToEventId = some parentId)
    (h : relation ∈ newRelations policy uuid state event) :
    relation.kind = .reply ∧ relation.toEventId = parentId ∧
      relation.fromEventId = event.sourceEventId ∧
      relation.threadId = (assignmentOf policy uuid state event).threadId := by
  rw [newRelations, ThreadProjectionEvent.relationsOf.eq_def, hreply] at h
  dsimp only at h
  split at h
  · cases h
  · rw [List.mem_singleton.mp h]
    exact ⟨rfl, rfl, rfl, rfl⟩

theorem mem_newRelations_window (hreply : event.replyToEventId = none)
    (h : relation ∈ newRelations policy uuid state event) :
    ∃ previous, event.previous policy state.latest = some previous ∧ relation.kind ≠ .reply ∧
      relation.toEventId = previous.sourceEventId ∧ relation.fromEventId = event.sourceEventId ∧
      relation.threadId = (assignmentOf policy uuid state event).threadId := by
  rw [newRelations, ThreadProjectionEvent.relationsOf.eq_def, hreply] at h
  dsimp only at h
  split at h
  · cases h
  · next previous hprev =>
    refine ⟨previous, hprev, ?_⟩
    rcases List.mem_cons.mp h with rfl | hactor
    · exact ⟨ThreadRelationKind.noConfusion, rfl, rfl, rfl⟩
    · split at hactor
      · rw [List.mem_singleton.mp hactor]
        exact ⟨ThreadRelationKind.noConfusion, rfl, rfl, rfl⟩
      · cases hactor

variable (uuid) in
/-- An event with a predecessor has a relation to it. -/
theorem exists_newRelation {previous : ThreadContextEvent} (hreply : event.replyToEventId = none)
    (h : event.previous policy state.latest = some previous) :
    ∃ relation ∈ newRelations policy uuid state event, relation.kind ≠ .reply ∧
      relation.toEventId = previous.sourceEventId := by
  rw [newRelations, ThreadProjectionEvent.relationsOf.eq_def, hreply, h]
  exact ⟨_, List.mem_cons_self, ThreadRelationKind.noConfusion, rfl⟩

variable (policy uuid) in
/-- The relations of a round stay in the conversation when the predecessor in the map does. -/
theorem windows_iff (hkeyed : store.Keyed) (hev : store.Supplied window event)
    (hbef : ∀ previous ∈ before, store.Supplied window previous) (h : Tracks before state) :
    (∀ relation ∈ newRelations policy uuid state event, relation.kind ≠ .reply →
        store.SameConversation relation.toEventId event) ↔
      (event.replyToEventId = none → ∀ previous, proximity policy before event = .latest previous →
        Together event previous) := by
  cases hreply : event.replyToEventId with
  | some parentId =>
    refine iff_of_true (fun relation hrel hkind => ?_) (fun hnone => by cases hnone)
    exact absurd (mem_newRelations_reply hreply hrel).1 hkind
  | none =>
    have hprev := h.previous_eq policy (forceNewThread_of_none hreply)
    constructor
    · intro hall _ previous hlat
      have hmem := (latestOf_mem (proximity_latest hlat)).1
      obtain ⟨assignment, -, -, -, hassig⟩ := h.assigned previous hmem
      rw [hlat] at hprev
      dsimp only at hprev
      rw [hassig] at hprev
      obtain ⟨relation, hrel, hkind, hto⟩ := exists_newRelation uuid hreply hprev
      have hsame := hall relation hrel hkind
      rw [hto] at hsame
      exact (sameConversation_iff hkeyed (hbef previous hmem)).mp hsame
    · intro hall relation hrel _
      obtain ⟨found, hfnd, -, hto, -⟩ := mem_newRelations_window hreply hrel
      rw [hto]
      rw [hfnd] at hprev
      rcases proximity_cases policy before event with
        ⟨previous, hlat⟩ | ⟨previous, hctx⟩ | hnew
      · rw [hlat] at hprev
        obtain ⟨threadId, -, rfl⟩ := Option.map_eq_some_iff.mp hprev.symm
        have hmem := (latestOf_mem (proximity_latest hlat)).1
        exact (sameConversation_iff hkeyed (hbef previous hmem)).mpr (hall rfl previous hlat)
      · rw [hctx] at hprev
        cases hprev
        exact (liveContext_spec hev (proximity_context hctx).2.1).2.2.1
      · rw [hnew] at hprev
        cases hprev

/-! ## The choice of a round -/

theorem attachment_spec (h : attachment policy before event = found) :
    match (motive := Attachment → Prop) found with
    | .reply parent => parent ∈ before ∧ event.replyToEventId = some parent.sourceEventId
    | .stored threadId => event.storedReplyThread = some threadId
    | .latest previous => proximity policy before event = .latest previous ∧
        before.find? event.isReplyTo = none
    | .context previous => proximity policy before event = .context previous
    | .new => event.forceNewThread = true ∨ proximity policy before event = .new := by
  rw [attachment] at h
  cases hpar : before.find? event.isReplyTo with
  | some parent =>
    rw [hpar] at h
    subst h
    have hreply := List.find?_some hpar
    exact ⟨List.mem_of_find?_eq_some hpar, of_decide_eq_true hreply⟩
  | none =>
    rw [hpar] at h
    dsimp only at h
    split at h
    · next hforce =>
      subst h
      exact .inl hforce
    · split at h
      · next threadId hstd =>
        subst h
        exact hstd
      · rcases proximity_cases policy before event with
          ⟨previous, heq⟩ | ⟨previous, heq⟩ | heq
        · rw [heq] at h
          subst h
          exact ⟨heq, rfl⟩
        · rw [heq] at h
          subst h
          exact heq
        · rw [heq] at h
          subst h
          exact .inr heq

section Choice

variable (h : Tracks before state)
include h

variable {found : Attachment}

variable (uuid) in
/-- An event that joins an earlier one gets its thread. -/
theorem Tracks.choice_joins (hattac : attachment policy before event = found)
    (hmem : previous ∈ before)
    (hcho : found.choice uuid state event = (state.assigned previous.sourceEventId.asStr).map
      fun threadId => (threadId, false, previous.sourceEventId)) :
    ∃ assignment ∈ state.assignments, assignment.sourceEventId = previous.sourceEventId ∧
      assignment.account = previous.account ∧ event.chooseThread policy uuid state =
        (assignment.threadId, false, previous.sourceEventId) := by
  obtain ⟨assignment, hass, hid, hacc, hassig⟩ := h.assigned previous hmem
  refine ⟨assignment, hass, hid, hacc, Option.some.inj ?_⟩
  rw [h.chooseThread_eq, hattac, hcho, hassig]
  rfl

variable (uuid) in
theorem Tracks.choice_eq (hattac : attachment policy before event = found)
    {choice : EventThreadId × Bool × SourceEventId}
    (hcho : found.choice uuid state event = some choice) :
    event.chooseThread policy uuid state = choice := by
  rw [← Option.some_inj, h.chooseThread_eq, hattac, hcho]

end Choice

/-! ## What holds of every plan -/

/-- The identifiers of the threads of a plan. -/
structure Named (store : Store) (uuid : ℕ → String) (state : Planning) : Prop where
  named : ∀ assignment ∈ state.assignments, (∃ n < state.drawn, assignment.threadId = ⟨uuid n⟩) ∨
    assignment.threadId ∈ store.threads.map EventThreadRow.threadId
  creates : AllSplits (CreatesNew store) state.assignments

variable (policy) in
theorem choice_named (h : Tracks before state) (hnamed : Named store uuid state)
    (hev : store.Supplied window event) :
    (assignmentOf policy uuid state event).createsThread = true ∧
        (assignmentOf policy uuid state event).threadId = ⟨uuid state.drawn⟩ ∨
      (assignmentOf policy uuid state event).createsThread = false ∧
        ((∃ n < state.drawn, (assignmentOf policy uuid state event).threadId = ⟨uuid n⟩) ∨
          (assignmentOf policy uuid state event).threadId ∈
            store.threads.map EventThreadRow.threadId) := by
  have hstd : ∀ threadId, store.HasThread threadId false →
      threadId ∈ store.threads.map EventThreadRow.threadId := by
    rintro _ ⟨thread, hthr, rfl, -⟩
    exact List.mem_map_of_mem hthr
  rw [assignmentOf]
  cases hattac : attachment policy before event with
  | reply parent =>
    obtain ⟨assignment, hmem, -, -, hcho⟩ :=
      h.choice_joins uuid hattac (attachment_spec hattac).1 rfl
    rw [hcho]
    exact .inr ⟨rfl, hnamed.named assignment hmem⟩
  | stored threadId =>
    rw [h.choice_eq uuid hattac rfl]
    exact .inr ⟨rfl, .inr (hstd _ (storedReplyThread_spec hev (attachment_spec hattac)))⟩
  | latest previous =>
    obtain ⟨assignment, hmem, -, -, hcho⟩ := h.choice_joins uuid hattac
      (latestOf_mem (proximity_latest (attachment_spec hattac).1)).1 rfl
    rw [hcho]
    exact .inr ⟨rfl, hnamed.named assignment hmem⟩
  | context previous =>
    rw [h.choice_eq uuid hattac rfl]
    have hlive := (proximity_context (attachment_spec hattac)).2.1
    exact .inr ⟨rfl, .inr (hstd _ (liveContext_spec hev hlive).2.2.2)⟩
  | new =>
    rw [h.choice_eq uuid hattac rfl]
    exact .inl ⟨rfl, rfl⟩

theorem Named.planEvent (hfr : Fresh uuid store) (h : Tracks before state)
    (hnamed : Named store uuid state) (hev : store.Supplied window event) :
    Named store uuid (planEvent policy uuid state event) := by
  have hcho := choice_named policy h hnamed hev
  have hdrawn : state.drawn ≤ (Threading.planEvent policy uuid state event).drawn := by
    rw [planEvent_drawn, drawnFor]
    split <;> omega
  refine ⟨fun assignment hass => ?_, ?_⟩
  · rw [planEvent_assignments, List.mem_append, List.mem_singleton] at hass
    rcases hass with hold | rfl
    · refine (hnamed.named assignment hold).imp_left fun hdrawn_id => ?_
      obtain ⟨n, hn, hid⟩ := hdrawn_id
      exact ⟨n, hn.trans_le hdrawn, hid⟩
    · rcases hcho with ⟨hcre, hid⟩ | ⟨-, ⟨n, hn, hid⟩ | hstd⟩
      · refine .inl ⟨state.drawn, ?_, hid⟩
        rw [planEvent_drawn, drawnFor, if_pos hcre]
        omega
      · exact .inl ⟨n, hn.trans_le hdrawn, hid⟩
      · exact .inr hstd
  · rw [planEvent_assignments, allSplits_snoc]
    refine ⟨hnamed.creates, fun hcre => ?_⟩
    rcases hcho with ⟨-, hid⟩ | ⟨hold, -⟩
    · rw [hid]
      refine ⟨fun hmem => ?_, hfr.new _⟩
      obtain ⟨earlier, hear, hsame⟩ := List.mem_map.mp hmem
      rcases hnamed.named earlier hear with ⟨n, hn, hdrawn_id⟩ | hstd
      · rw [hdrawn_id] at hsame
        exact absurd (hfr.injective (EventThreadId.mk.inj hsame)) (Nat.ne_of_lt hn)
      · exact hfr.new _ (hsame ▸ hstd)
    · rw [hold] at hcre
      cases hcre

theorem named_planAll (hfr : Fresh uuid store)
    (hnd : (events.map ThreadProjectionEvent.sourceEventId).Nodup)
    (hsup : ∀ event ∈ events, store.Supplied window event) :
    Named store uuid (planAll policy uuid events) := by
  induction events using List.reverseRecOn with
  | nil => exact ⟨nofun, allSplits_nil⟩
  | append_singleton events event ih =>
    rw [List.map_append] at hnd
    have hevs := hnd.of_append_left
    have hnamed := ih hevs fun earlier hmem => hsup earlier (List.mem_append_left _ hmem)
    rw [planAll_snoc]
    exact hnamed.planEvent hfr (tracks_planAll hevs)
      (hsup event (List.mem_append_right _ (List.mem_singleton_self _)))

/-! ## One round -/

/-- What a round should do. -/
structure RoundWell (store : Store) (policy : DeterministicThreadPolicy) (uuid : ℕ → String)
    (before : List ThreadProjectionEvent) (event : ThreadProjectionEvent) : Prop where
  attached : Attached store (planAll policy uuid before).assignments
    (assignmentOf policy uuid (planAll policy uuid before) event)
  rooted : Rooted store event (assignmentOf policy uuid (planAll policy uuid before) event)
  windows : ∀ relation ∈ newRelations policy uuid (planAll policy uuid before) event,
    relation.kind ≠ .reply → store.SameConversation relation.toEventId event

/-- An event that joins the thread of an earlier one is of its account. -/
theorem attached_iff_of_joins (hkeyed : store.Keyed) (hnamed : Named store uuid state)
    (hwell : AllSplits (Attached store) state.assignments) (hmem : assignment ∈ state.assignments)
    (hcho : event.chooseThread policy uuid state = (assignment.threadId, false, root)) :
    Attached store state.assignments (assignmentOf policy uuid state event) ↔
      assignment.account = event.account := by
  have horig := origin_of_attached hwell hmem
  rw [Attached, assignmentOf, hcho]
  constructor
  · intro h
    exact horig.account_eq hkeyed hnamed.creates (h rfl)
  · intro hsame _
    show Origin store state.assignments assignment.threadId event.account
    rw [← hsame]
    exact horig

/-- An event that joins a thread of the store is of the account of the thread. -/
theorem attached_iff_of_stored (hkeyed : store.Keyed) (hnamed : Named store uuid state)
    (hthr : store.HasThread threadId false)
    (hcho : event.chooseThread policy uuid state = (threadId, false, root)) :
    Attached store state.assignments (assignmentOf policy uuid state event) ↔
      store.AccountOf threadId event.account := by
  rw [Attached, assignmentOf, hcho, ← origin_stored_iff hkeyed hnamed.creates hthr]
  exact ⟨fun h => h rfl, fun h _ => h⟩

theorem roundWell_iff (hkeyed : store.Keyed) (hfr : Fresh uuid store)
    (hnd : ((before ++ [event]).map ThreadProjectionEvent.sourceEventId).Nodup)
    (hsup : ∀ event ∈ before, store.Supplied window event) (hev : store.Supplied window event)
    (hwell : AllSplits (RoundWell store policy uuid) before) :
    RoundWell store policy uuid before event ↔ Clear store policy before event := by
  rw [List.map_append, List.nodup_append] at hnd
  have htrk : Tracks before (planAll policy uuid before) := tracks_planAll hnd.1
  have hnamed : Named store uuid (planAll policy uuid before) :=
    named_planAll hfr hnd.1 hsup
  have hattached : AllSplits (Attached store) (planAll policy uuid before).assignments :=
    allSplits_assignments.mpr fun first earlier after hspl => (hwell first earlier after hspl).attached
  have hne : ∀ previous ∈ before, previous.sourceEventId ≠ event.sourceEventId := fun previous hmem =>
    hnd.2.2 _ (List.mem_map_of_mem hmem) _ (List.mem_singleton_self _)
  have hwind := windows_iff policy uuid hkeyed hev hsup htrk
  suffices hrd : Attached store (planAll policy uuid before).assignments
        (assignmentOf policy uuid (planAll policy uuid before) event) ∧
      Rooted store event (assignmentOf policy uuid (planAll policy uuid before) event) ↔
      match attachment policy before event with
      | .reply parent => parent.account = event.account
      | .stored threadId => store.AccountOf threadId event.account
      | .latest previous => Together event previous
      | .context previous => store.AccountOf previous.threadId event.account
      | .new => True by
    constructor
    · intro h
      exact ⟨hrd.mp ⟨h.attached, h.rooted⟩, hwind.mp h.windows⟩
    · intro h
      obtain ⟨hatt, hroot⟩ := hrd.mpr h.attachment
      exact ⟨hatt, hroot, hwind.mpr h.window⟩
  cases hattac : attachment policy before event with
  | reply parent =>
    obtain ⟨hpar, hreply⟩ := attachment_spec hattac
    obtain ⟨assignment, hmem, -, hacc, hcho⟩ :=
      htrk.choice_joins uuid hattac hpar rfl
    have hroot : Rooted store event (assignmentOf policy uuid (planAll policy uuid before) event) := by
      rw [Rooted, assignmentOf, hcho]
      exact .inr (.inl hreply)
    rw [and_iff_left hroot, attached_iff_of_joins hkeyed hnamed hattached hmem hcho, hacc]
  | stored threadId =>
    have hcho := htrk.choice_eq uuid hattac rfl
    have hthr := storedReplyThread_spec hev (attachment_spec hattac)
    have hroot : Rooted store event (assignmentOf policy uuid (planAll policy uuid before) event) := by
      rw [Rooted, assignmentOf, hcho]
      cases event.replyToEventId with
      | none => exact .inl rfl
      | some parentId => exact .inr (.inl rfl)
    rw [and_iff_left hroot]
    exact attached_iff_of_stored hkeyed hnamed hthr hcho
  | latest previous =>
    obtain ⟨hlat, hpar⟩ := attachment_spec hattac
    have hmem := (latestOf_mem (proximity_latest hlat)).1
    obtain ⟨assignment, hass, -, hacc, hcho⟩ :=
      htrk.choice_joins uuid hattac hmem rfl
    have hroot : Rooted store event (assignmentOf policy uuid (planAll policy uuid before) event) ↔
        Together event previous := by
      rw [Rooted, assignmentOf, hcho]
      show previous.sourceEventId = event.sourceEventId ∨
        event.replyToEventId = some previous.sourceEventId ∨
          store.SameConversation previous.sourceEventId event ↔ _
      have hreply : event.replyToEventId ≠ some previous.sourceEventId := fun heq =>
        List.find?_eq_none.mp hpar previous hmem (decide_eq_true heq)
      rw [or_iff_right (hne previous hmem), or_iff_right hreply]
      exact sameConversation_iff hkeyed (hsup previous hmem)
    rw [hroot, attached_iff_of_joins hkeyed hnamed hattached hass hcho, hacc]
    exact and_iff_right_of_imp fun htog => htog.1
  | context previous =>
    have hcho := htrk.choice_eq uuid hattac rfl
    have hlive := (proximity_context (attachment_spec hattac)).2.1
    obtain ⟨-, -, hsame, hthr⟩ := liveContext_spec hev hlive
    have hroot : Rooted store event (assignmentOf policy uuid (planAll policy uuid before) event) := by
      rw [Rooted, assignmentOf, hcho]
      exact .inr (.inr hsame)
    rw [and_iff_left hroot]
    exact attached_iff_of_stored hkeyed hnamed hthr hcho
  | new =>
    have hcho := htrk.choice_eq uuid hattac rfl
    rw [Attached, Rooted, assignmentOf, hcho]
    exact iff_of_true ⟨fun hold => Bool.noConfusion hold, .inl rfl⟩ trivial

/-! ## The order of a batch -/

section Order

variable {batch : ClaimedThreadProjectionBatch}

theorem order_perm : batch.order.Perm batch.events := by
  rw [ClaimedThreadProjectionBatch.order, replyParentsFirst]
  exact (drain_firstReady_perm _).trans (List.perm_insertionSort _ _)

theorem waitsIn_congr {others : List ThreadProjectionEvent} (h : events.Perm others) :
    WaitsIn ThreadProjectionEvent.isReplyTo events = WaitsIn ThreadProjectionEvent.isReplyTo others := by
  funext x y
  rw [WaitsIn, WaitsIn, h.mem_iff]

/-- A parent comes before its reply, unless the replies go round in a circle. -/
theorem parent_first (hacyc : Acyclic ThreadProjectionEvent.isReplyTo batch.events event)
    {parent : ThreadProjectionEvent} (hpar : parent ∈ batch.events)
    (hreply : event.isReplyTo parent = true) (h : batch.order = before ++ event :: after) :
    parent ∈ before := by
  have hsorted : (batch.events.insertionSort fun left right => left.byTime ≤ right.byTime).Perm
      batch.events := List.perm_insertionSort _ _
  refine mem_before_of_waits h ?_ ⟨hsorted.mem_iff.mpr hpar, hreply⟩
  rw [Acyclic, waitsIn_congr hsorted]
  exact hacyc

end Order

/-! ## Plans -/

section Plan

variable {request : ClaimRequest} {batch : ClaimedThreadProjectionBatch}

theorem plan_assignments :
    (plan policy uuid batch).assignments = (planAll policy uuid batch.order).assignments := rfl

theorem rounds_of_wellFormed (h : WellFormed store batch (plan policy uuid batch)) :
    AllSplits (RoundWell store policy uuid) batch.order := by
  have hattached := allSplits_assignments.mp h.attached
  intro before event after hspl
  have hev : event ∈ batch.events :=
    order_perm.subset (hspl ▸ List.mem_append_right _ List.mem_cons_self)
  refine ⟨hattached before event after hspl, ?_, fun relation hrel hkind => ?_⟩
  · exact h.rooted event hev _ (mem_assignments.mpr ⟨before, event, after, hspl, rfl⟩) rfl
  · have hall : ∀ relation ∈ newRelations policy uuid (planAll policy uuid before) event,
        relation ∈ (plan policy uuid batch).relations :=
      forall_mem_relations.mp (fun _ hmem => hmem) before event after hspl
    refine h.windows relation (hall relation hrel) hkind event hev ?_
    cases hreply : event.replyToEventId with
    | some parentId => exact (mem_newRelations_reply hreply hrel).2.2.1
    | none =>
      obtain ⟨_, _, _, _, hfrom, _⟩ := mem_newRelations_window hreply hrel
      exact hfrom

theorem explains_newRelation (h : Tracks before state) {relation : ThreadRelation}
    (hrel : relation ∈ newRelations policy uuid state event) :
    Explains event (assignmentOf policy uuid state event) relation := by
  cases hreply : event.replyToEventId with
  | some parentId =>
    obtain ⟨hkind, rfl, hfrom, hthr⟩ := mem_newRelations_reply hreply hrel
    exact ⟨hfrom, hthr, fun _ => hreply, fun hne => absurd hkind hne⟩
  | none =>
    obtain ⟨found, hfnd, hkind, hto, hfrom, hthr⟩ := mem_newRelations_window hreply hrel
    refine ⟨hfrom, hthr, fun heq => absurd heq hkind, fun _ => ⟨hreply, ?_⟩⟩
    have hprev := h.previous_eq policy (forceNewThread_of_none hreply)
    rw [hfnd] at hprev
    rw [hto, assignmentOf]
    cases hattac : attachment policy before event with
    | reply parent =>
      rw [(attachment_spec hattac).2] at hreply
      cases hreply
    | stored threadId =>
      rw [h.choice_eq uuid hattac rfl, hreply]
      exact .inr rfl
    | latest previous =>
      have hlat := (attachment_spec hattac).1
      rw [hlat] at hprev
      obtain ⟨threadId, -, rfl⟩ := Option.map_eq_some_iff.mp hprev.symm
      obtain ⟨assignment, -, -, -, hcho⟩ :=
        h.choice_joins uuid hattac (latestOf_mem (proximity_latest hlat)).1 rfl
      rw [hcho]
      exact .inl rfl
    | context previous =>
      rw [attachment_spec hattac] at hprev
      cases hprev
      rw [h.choice_eq uuid hattac rfl]
      exact .inl rfl
    | new =>
      rw [h.choice_eq uuid hattac rfl]
      exact .inr rfl

/-- What every plan of a claimed batch satisfies, when its rounds do what they should. -/
theorem wellFormed_of (hfr : Fresh uuid store)
    (hnd : (batch.events.map ThreadProjectionEvent.sourceEventId).Nodup)
    (hsup : ∀ event ∈ batch.events, store.Supplied window event)
    (hwell : AllSplits (RoundWell store policy uuid) batch.order) :
    WellFormed store batch (plan policy uuid batch) := by
  have hord : (batch.order.map ThreadProjectionEvent.sourceEventId).Nodup :=
    (order_perm.map _).nodup_iff.mpr hnd
  have hids : (plan policy uuid batch).assignments.map ThreadAssignment.sourceEventId =
      batch.order.map ThreadProjectionEvent.sourceEventId := map_sourceEventId_assignments
  have hnamed : Named store uuid (planAll policy uuid batch.order) :=
    named_planAll hfr hord fun event hev => hsup event (order_perm.subset hev)
  have hmem {before after : List ThreadProjectionEvent} {event : ThreadProjectionEvent}
      (hspl : batch.order = before ++ event :: after) : event ∈ batch.events :=
    order_perm.subset (hspl ▸ List.mem_append_right _ List.mem_cons_self)
  refine {
    permutation := hids ▸ order_perm.map _
    once := hids ▸ hord
    parentsFirst := fun event hev hacyc parent hpar hreply => ?_
    creates := hnamed.creates
    createdOnce := nodup_created hnamed.creates
    attached := allSplits_assignments.mpr fun before event after hspl =>
      (hwell before event after hspl).attached
    rooted := fun event hev assignment hass hsame => ?_
    windows := forall_mem_relations.mpr fun before other after hspl relation hrel hkind
      event hev hfrom => ?_
    relations := forall_mem_relations.mpr fun before event after hspl relation hrel => ?_ }
  · obtain ⟨before, after, hspl⟩ := List.append_of_mem (order_perm.mem_iff.mpr hev)
    have hbef := parent_first hacyc hpar hreply hspl
    rw [hids, hspl, List.map_append, List.map_cons]
    exact (List.singleton_sublist.mpr (List.mem_map_of_mem hbef)).append
      (List.singleton_sublist.mpr List.mem_cons_self)
  · obtain ⟨before, other, after, hspl, rfl⟩ := mem_assignments.mp hass
    rw [← eq_of_key_eq hnd (hmem hspl) hev hsame]
    exact (hwell before other after hspl).rooted
  · have htrk : Tracks before (planAll policy uuid before) := tracks_planAll
      (hord.sublist (hspl ▸ (List.sublist_append_left _ _).map _))
    have hoth := (explains_newRelation htrk hrel).source.symm.trans hfrom
    rw [← eq_of_key_eq hnd (hmem hspl) hev hoth]
    exact (hwell before other after hspl).windows relation hrel hkind
  · have htrk : Tracks before (planAll policy uuid before) := tracks_planAll
      (hord.sublist (hspl ▸ (List.sublist_append_left _ _).map _))
    exact ⟨event, hmem hspl, _, mem_assignments.mpr ⟨before, event, after, hspl, rfl⟩, rfl,
      explains_newRelation htrk hrel⟩

/-- The plan of a claimed batch is well formed if and only if nothing is attached across accounts or
conversations. -/
theorem plan_wellFormed_iff (hclaim : (claimProjectionBatch request store).1 = some batch)
    (hkeyed : store.Keyed) (hfresh : Fresh uuid store) :
    WellFormed store batch (plan policy uuid batch) ↔ AllSplits (Clear store policy) batch.order := by
  have hnd := nodup_claim hkeyed hclaim
  have hsup := supplied_claim hkeyed hclaim
  have hord : (batch.order.map ThreadProjectionEvent.sourceEventId).Nodup :=
    (order_perm.map _).nodup_iff.mpr hnd
  have hrounds : AllSplits (RoundWell store policy uuid) batch.order ↔
      AllSplits (Clear store policy) batch.order := by
    refine allSplits_congr fun before event after hspl hwell => ?_
    have hmem : ∀ other ∈ before ++ [event], other ∈ batch.events := fun other hoth =>
      order_perm.subset (by rw [hspl]; simp only [List.mem_append, List.mem_cons] at hoth ⊢; tauto)
    refine roundWell_iff hkeyed hfresh (hord.sublist ?_) (fun other hoth =>
      hsup other (hmem other (List.mem_append_left _ hoth)))
      (hsup event (hmem event (List.mem_append_right _ (List.mem_singleton_self _)))) hwell
    rw [hspl]
    exact (List.Sublist.append_left (List.singleton_sublist.mpr List.mem_cons_self) _).map _
  rw [← hrounds]
  exact ⟨rounds_of_wellFormed, wellFormed_of hfresh hnd hsup⟩

end Plan

/-! ## Two conversations with one key -/

namespace Scripted

theorem firstId_not_blank : isBlank "event-one" = false := by decide

theorem secondId_not_blank : isBlank "event-two" = false := by decide

/-- A message that replies to nothing. -/
def message (sourceEventId : SourceEventId) (accountId conversation : String)
    (occurredAtUnixSecs : Int) : SourceEventRow where
  sourceEventId := sourceEventId
  account := ⟨.napCat, accountId⟩
  conversation := ⟨.group, conversation⟩
  actorPlatformId := "alice"
  occurredAtUnixSecs := occurredAtUnixSecs
  replyToEventId := none

def storeOf (events : List SourceEventRow) : Store := ⟨events, [], [], []⟩

/-- Two messages, the first one in the conversation `x:group:y`. -/
def twoMessages (accountId other conversation : String) : Store :=
  storeOf [message ⟨"event-one", firstId_not_blank⟩ accountId "x:group:y" 100,
    message ⟨"event-two", secondId_not_blank⟩ other conversation 150]

def claimAll : ClaimRequest where
  maxEvents := 10
  leaseSecs := 60
  sameConversationWindowSecs := 300
  now := 0
  leaseToken := "lease"
  locked _ := false

/-- The batch of all events of a store that holds nothing else. -/
def batchOf (store : Store) : ClaimedThreadProjectionBatch :=
  ((claimProjectionBatch claimAll store).1).getD ⟨"", []⟩

def fiveMinutes : DeterministicThreadPolicy := ⟨300, by decide⟩

/-- `n + 1` strokes. -/
def strokes (n : ℕ) : String := String.ofList (List.replicate (n + 1) '1')

theorem strokes_fresh (events : List SourceEventRow) : Fresh strokes (storeOf events) where
  injective m n h := by
    have hlist := congrArg List.length (congrArg String.toList h)
    simpa [strokes] using hlist
  new n := List.not_mem_nil

end Scripted

section Scripted

open Scripted

theorem clear_of_one_conversation :
    AllSplits (Clear (twoMessages "1" "1" "x:group:y") fiveMinutes)
      (batchOf (twoMessages "1" "1" "x:group:y")).order := by
  obtain ⟨first, hfst⟩ : ∃ first, first = (twoMessages "1" "1" "x:group:y").projectionEvent 300
    (message ⟨"event-one", firstId_not_blank⟩ "1" "x:group:y" 100) := ⟨_, rfl⟩
  obtain ⟨second, hsec⟩ : ∃ second, second = (twoMessages "1" "1" "x:group:y").projectionEvent 300
    (message ⟨"event-two", secondId_not_blank⟩ "1" "x:group:y" 150) := ⟨_, rfl⟩
  have hord : (batchOf (twoMessages "1" "1" "x:group:y")).order = [first, second] := by
    rw [hfst, hsec]
    decide
  have hnew : attachment fiveMinutes [] first = .new := by
    rw [hfst]
    decide
  have hlat : attachment fiveMinutes [first] second = .latest first := by
    rw [hfst, hsec]
    decide
  have htog : Together second first := by
    rw [hfst, hsec]
    exact ⟨rfl, rfl⟩
  rw [hord, allSplits_pair]
  refine ⟨⟨by rw [hnew]; trivial, fun _ previous hprev => ?_⟩,
    ⟨by rw [hlat]; exact htog, fun _ previous hprev => ?_⟩⟩
  · cases (latestOf_mem (proximity_latest hprev)).1
  · rw [List.mem_singleton.mp (latestOf_mem (proximity_latest hprev)).1]
    exact htog

/-- Two messages of one conversation are planned well. -/
theorem wellFormed_one_conversation : WellFormed (twoMessages "1" "1" "x:group:y")
    (batchOf (twoMessages "1" "1" "x:group:y"))
    (plan fiveMinutes strokes (batchOf (twoMessages "1" "1" "x:group:y"))) := by
  have hcl : (claimProjectionBatch claimAll (twoMessages "1" "1" "x:group:y")).1 =
      some (batchOf (twoMessages "1" "1" "x:group:y")) := by decide
  have hkeyed : (twoMessages "1" "1" "x:group:y").Keyed := by constructor <;> decide
  exact (plan_wellFormed_iff hcl hkeyed (strokes_fresh _)).mpr clear_of_one_conversation

/-- The conversation `x:group:y` of account `1` has the key of `y` of account `1:group:x`: the second
message is attached to the thread of the first one. -/
theorem shared_key : ¬ ∀ (request : ClaimRequest) (store : Store) (batch : ClaimedThreadProjectionBatch)
    (policy : DeterministicThreadPolicy) (uuid : ℕ → String),
    (claimProjectionBatch request store).1 = some batch → store.Keyed → Fresh uuid store →
      WellFormed store batch (plan policy uuid batch) := by
  intro hcl
  have hwell := hcl claimAll (twoMessages "1" "1:group:x" "y")
    (batchOf (twoMessages "1" "1:group:x" "y")) fiveMinutes strokes (by decide)
    (by constructor <;> decide) (strokes_fresh _)
  exact absurd hwell.windows (by decide)

end Scripted

end ServerRS.Threading

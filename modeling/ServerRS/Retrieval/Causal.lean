import ServerRS.Retrieval.Reference

/-!
# Who has which role in an event

Models `validate_causal_context` and `check_causal_role_strictness` of
`personal-secretary/src/domain/retriever.rs`, and `RetrieverUseCase::event_causal_context`, which lets a
view out when both find nothing.

A participant is listed in a role on the strength of a confirmed relation of that role. The check
compares the account and the stable id of the two, and no kind of identity, so the relation of a
namesake of another kind is enough (`namesake_of_another_kind`). What the view accepts are the
participants with a relation of their own exactly when no namesake stands in for one of them, and the
limits and the other confirmed relations of the view leave it through (`causal_roles_iff`). In the
views that the store builds there are no such namesakes (`built_view_iff`).
-/

namespace ServerRS.Retrieval

open Lib

/-! ## Views -/

def MAX_CAUSAL_PARTICIPANTS : ℕ := 20

def MAX_CAUSAL_RELATIONS : ℕ := 40

def MAX_CAUSAL_MENTIONED : ℕ := 20

def MAX_CAUSAL_SOURCE_REFS : ℕ := 20

def MAX_RELATION_SOURCES : ℕ := 3

structure AccountScopedParticipantRef where
  account : SourceAccountRef
  identity : ParticipantIdentity
deriving DecidableEq

inductive EventRelationKind where
  | sentBy
  | mentions
  | repliesTo
  | memberOfThread
  | threadRootBy
  | requestedBy
  | assignedTo
  | promisedBy
  | benefits
deriving DecidableEq

def EventRelationKind.asStr : EventRelationKind → String
  | .sentBy => "sent_by"
  | .mentions => "mentions"
  | .repliesTo => "replies_to"
  | .memberOfThread => "member_of_thread"
  | .threadRootBy => "thread_root_by"
  | .requestedBy => "requested_by"
  | .assignedTo => "assigned_to"
  | .promisedBy => "promised_by"
  | .benefits => "benefits"

structure EventRelation where
  kind : EventRelationKind
  account : SourceAccountRef
  subject : AccountScopedParticipantRef
  threadId : Option EventThreadId
  sourceEventIds : List SourceEventId
  trust : IdentityTrust
  confirmed : Bool
  invalidationReason : Option String
deriving DecidableEq

inductive GroupRole where
  | owner
  | admin
  | member
  | unknown
deriving DecidableEq

structure EventParticipantSummary where
  participant : AccountScopedParticipantRef
  displayName : Option String
  groupRole : GroupRole
  eventCount : UInt64
deriving DecidableEq

/-- Without the sender, the parent and the thread of the event, which nothing here looks at. -/
structure EventCausalContextView where
  sourceEventId : SourceEventId
  account : SourceAccountRef
  mentioned : List AccountScopedParticipantRef
  requesters : List AccountScopedParticipantRef
  assignees : List AccountScopedParticipantRef
  promisors : List AccountScopedParticipantRef
  beneficiaries : List AccountScopedParticipantRef
  participants : List EventParticipantSummary
  relations : List EventRelation
  ambiguous : Bool
  sourceRefs : List SourceEventId
deriving DecidableEq

/-! ## Limits -/

inductive RetrieverError where
  | invalidData (text : String)
deriving DecidableEq

def within (name : String) (count max : ℕ) : Except RetrieverError Unit :=
  if count > max then .error (.invalidData (name ++ " exceeds " ++ toString max)) else .ok ()

def validateCausalContext (view : EventCausalContextView) : Except RetrieverError Unit := do
  within "EventCausalContextView.mentioned" view.mentioned.length MAX_CAUSAL_MENTIONED
  within "EventCausalContextView.participants" view.participants.length MAX_CAUSAL_PARTICIPANTS
  within "EventCausalContextView.relations" view.relations.length MAX_CAUSAL_RELATIONS
  within "EventCausalContextView.source_refs" view.sourceRefs.length MAX_CAUSAL_SOURCE_REFS
  view.relations.forM fun relation =>
    within ("EventRelation " ++ relation.kind.asStr ++ " source_event_ids")
      relation.sourceEventIds.length MAX_RELATION_SOURCES

/-! ## Roles -/

def EventRelationKind.isRole : EventRelationKind → Bool
  | .requestedBy | .assignedTo | .promisedBy | .benefits => true
  | _ => false

def confirmedRoles (view : EventCausalContextView) : List EventRelation :=
  view.relations.filter fun relation => relation.confirmed && relation.kind.isRole

/-- The name of a list, the list, and the relation that it takes. -/
def roleLists (view : EventCausalContextView) :
    List (String × List AccountScopedParticipantRef × EventRelationKind) :=
  [("requesters", view.requesters, .requestedBy), ("assignees", view.assignees, .assignedTo),
    ("promisors", view.promisors, .promisedBy), ("beneficiaries", view.beneficiaries, .benefits)]

/-- The kinds of the two identities are not compared. -/
def supports (kind : EventRelationKind) (participant : AccountScopedParticipantRef)
    (relation : EventRelation) : Bool :=
  relation.kind = kind && relation.subject.account = participant.account &&
    relation.subject.identity.stableId = participant.identity.stableId

def hasReadableSource (view : EventCausalContextView) (relation : EventRelation) : Bool :=
  !relation.sourceEventIds.isEmpty &&
    relation.sourceEventIds.any fun id => view.sourceRefs.contains id

def unsupported (view : EventCausalContextView) (name : String) (kind : EventRelationKind)
    (participant : AccountScopedParticipantRef) : Option String :=
  if (confirmedRoles view).any (supports kind participant) then none
  else some (name ++ " contains " ++ participant.identity.stableId ++ " without a confirmed " ++
    kind.asStr ++ " relation")

def unreadable (view : EventCausalContextView) (relation : EventRelation) : Option String :=
  if hasReadableSource view relation then none
  else some ("confirmed " ++ relation.kind.asStr ++ " relation lacks a readable source ref")

def checkCausalRoleStrictness (view : EventCausalContextView) : List String :=
  ((roleLists view).flatMap fun role => role.2.1.filterMap (unsupported view role.1 role.2.2)) ++
    (confirmedRoles view).filterMap (unreadable view)

/-! ## The use case -/

inductive RetrieverUseCaseError where
  | store (error : InboundEventStoreError)
  | domain (error : RetrieverError)
  | invalidInput (text : String)

structure RetrieverStore where
  eventCausalContext : SourceAccountRef → SourceEventId →
    Except InboundEventStoreError (Option EventCausalContextView)

/-- Both checks of a view. -/
def checked (view : EventCausalContextView) : Except RetrieverUseCaseError Unit := do
  (validateCausalContext view).mapError .domain
  let violations := checkCausalRoleStrictness view
  if violations.isEmpty then .ok ()
  else .error (.domain (.invalidData
    ("causal role strictness violations: " ++ "; ".intercalate violations)))

def eventCausalContext (store : RetrieverStore) (account : SourceAccountRef)
    (sourceEventId : SourceEventId) :
    Except RetrieverUseCaseError (Option EventCausalContextView) := do
  let view ← (store.eventCausalContext account sourceEventId).mapError .store
  match view with
  | some found =>
    checked found
    .ok view
  | none => .ok view

/-! ## Relations of one's own -/

/-- The account of the view is the account in which its source references can be read. -/
def Readable (view : EventCausalContextView) (account : SourceAccountRef) (id : SourceEventId) :
    Prop :=
  account = view.account ∧ id ∈ view.sourceRefs

/-- A confirmed relation of the kind is about the participant, and has a source in its account. -/
def Backed (view : EventCausalContextView) (kind : EventRelationKind)
    (participant : AccountScopedParticipantRef) : Prop :=
  ∃ relation ∈ view.relations, relation.confirmed = true ∧ relation.kind = kind ∧
    relation.subject.account = participant.account ∧
    relation.subject.identity.identity = participant.identity.identity ∧
    relation.account = participant.account ∧
    ∃ id ∈ relation.sourceEventIds, Readable view participant.account id

def RolesBacked (view : EventCausalContextView) : Prop :=
  ∀ role ∈ roleLists view, ∀ participant ∈ role.2.1, Backed view role.2.2 participant

/-- The view keeps within its limits. -/
def Bounded (view : EventCausalContextView) : Prop :=
  view.mentioned.length ≤ MAX_CAUSAL_MENTIONED ∧
    view.participants.length ≤ MAX_CAUSAL_PARTICIPANTS ∧
    view.relations.length ≤ MAX_CAUSAL_RELATIONS ∧
    view.sourceRefs.length ≤ MAX_CAUSAL_SOURCE_REFS ∧
    ∀ relation ∈ view.relations, relation.sourceEventIds.length ≤ MAX_RELATION_SOURCES

/-- Every confirmed relation of a role has a source among those of the view. -/
def RolesReadable (view : EventCausalContextView) : Prop :=
  ∀ relation ∈ view.relations, relation.confirmed = true → relation.kind.isRole = true →
    ∃ id ∈ relation.sourceEventIds, id ∈ view.sourceRefs

/-- Relations that the check counts for a participant. -/
def Namesake (view : EventCausalContextView) (kind : EventRelationKind)
    (participant : AccountScopedParticipantRef) (relation : EventRelation) : Prop :=
  relation ∈ view.relations ∧ relation.confirmed = true ∧ relation.kind = kind ∧
    relation.subject.account = participant.account ∧
    relation.subject.identity.stableId = participant.identity.stableId

def EveryoneNamed (view : EventCausalContextView) : Prop :=
  ∀ role ∈ roleLists view, ∀ participant ∈ role.2.1,
    ∃ relation, Namesake view role.2.2 participant relation

/-- A participant of a role list that has namesakes is one of them: some relation of a namesake has
the kind of identity of the participant, and is of its account, which is the account of the view. -/
def NoStandIn (view : EventCausalContextView) : Prop :=
  ∀ role ∈ roleLists view, ∀ participant ∈ role.2.1,
    (∃ relation, Namesake view role.2.2 participant relation) →
      ∃ relation, Namesake view role.2.2 participant relation ∧
        relation.subject.identity.platformKind = participant.identity.platformKind ∧
        relation.account = participant.account ∧ participant.account = view.account

variable {view : EventCausalContextView}

/-! ## What passes -/

theorem within_eq_ok {name : String} {count max : ℕ} : within name count max = .ok () ↔ count ≤ max := by
  rw [within]
  split
  · next h => exact ⟨fun hok => (by cases hok), fun hle => absurd hle (Nat.not_le.mpr h)⟩
  · next h => exact ⟨fun _ => Nat.not_lt.mp h, fun _ => rfl⟩

theorem validateCausalContext_eq_ok : validateCausalContext view = .ok () ↔ Bounded view := by
  simp only [validateCausalContext, Bounded, Except.and_then_eq_ok, Except.forM_eq_ok, within_eq_ok]

theorem isRole_of_mem_roleLists {role : String × List AccountScopedParticipantRef × EventRelationKind}
    (h : role ∈ roleLists view) : role.2.2.isRole = true := by
  simp only [roleLists, List.mem_cons, List.not_mem_nil, or_false] at h
  rcases h with rfl | rfl | rfl | rfl <;> rfl

variable {relation : EventRelation}

theorem mem_confirmedRoles : relation ∈ confirmedRoles view ↔
    relation ∈ view.relations ∧ relation.confirmed = true ∧ relation.kind.isRole = true := by
  rw [confirmedRoles, List.mem_filter, Bool.and_eq_true]

theorem unsupported_eq_none {name : String} {kind : EventRelationKind} (hrole : kind.isRole = true)
    {participant : AccountScopedParticipantRef} : unsupported view name kind participant = none ↔
      ∃ relation, Namesake view kind participant relation := by
  have hsupport : (confirmedRoles view).any (supports kind participant) = true ↔
      ∃ relation, Namesake view kind participant relation := by
    rw [List.any_eq_true]
    refine exists_congr fun relation => ?_
    rw [mem_confirmedRoles, supports, Namesake]
    simp only [Bool.and_eq_true, decide_eq_true_iff]
    constructor
    · rintro ⟨⟨hmem, hconf, -⟩, ⟨hkind, hacc⟩, hid⟩
      exact ⟨hmem, hconf, hkind, hacc, hid⟩
    · rintro ⟨hmem, hconf, hkind, hacc, hid⟩
      exact ⟨⟨hmem, hconf, hkind ▸ hrole⟩, ⟨hkind, hacc⟩, hid⟩
  rw [← hsupport, unsupported]
  split
  · next h => exact ⟨fun _ => h, fun _ => rfl⟩
  · next h => exact ⟨fun hnone => (by cases hnone), fun hany => absurd hany h⟩

theorem unreadable_eq_none : unreadable view relation = none ↔
    ∃ id ∈ relation.sourceEventIds, id ∈ view.sourceRefs := by
  have hrea : hasReadableSource view relation = true ↔
      ∃ id ∈ relation.sourceEventIds, id ∈ view.sourceRefs := by
    rw [hasReadableSource, Bool.and_eq_true, List.any_eq_true]
    simp only [List.contains_iff_mem]
    constructor
    · exact fun h => h.2
    · rintro ⟨id, hid, href⟩
      refine ⟨?_, id, hid, href⟩
      simpa using List.ne_nil_of_mem hid
  rw [← hrea, unreadable]
  split
  · next h => exact ⟨fun _ => h, fun _ => rfl⟩
  · next h => exact ⟨fun hnone => (by cases hnone), fun hany => absurd hany h⟩

theorem checkCausalRoleStrictness_eq_nil :
    checkCausalRoleStrictness view = [] ↔ EveryoneNamed view ∧ RolesReadable view := by
  rw [checkCausalRoleStrictness, List.append_eq_nil_iff, List.flatMap_eq_nil_iff]
  refine and_congr ?_ ?_
  · refine forall₂_congr fun role hrole => ?_
    rw [List.filterMap_eq_nil_iff]
    exact forall₂_congr fun participant _ => unsupported_eq_none (isRole_of_mem_roleLists hrole)
  · rw [List.filterMap_eq_nil_iff, RolesReadable]
    simp only [unreadable_eq_none, mem_confirmedRoles, and_imp]

theorem eventCausalContext_eq_ok (account : SourceAccountRef) (sourceEventId : SourceEventId) :
    eventCausalContext ⟨fun _ _ => .ok (some view)⟩ account sourceEventId = .ok (some view) ↔
      Bounded view ∧ EveryoneNamed view ∧ RolesReadable view := by
  show (checked view >>= fun _ => .ok (some view)) = .ok (some view) ↔ _
  rw [Except.and_then_eq_ok, and_iff_left rfl, checked, Except.and_then_eq_ok,
    Except.mapError_eq_ok, validateCausalContext_eq_ok, ← checkCausalRoleStrictness_eq_nil]
  refine and_congr_right fun _ => ?_
  dsimp only
  split
  · next h => exact ⟨fun _ => List.isEmpty_iff.mp h, fun _ => rfl⟩
  · next h => exact ⟨fun hok => (by cases hok), fun hnil => absurd (List.isEmpty_iff.mpr hnil) h⟩

/-! ## Namesakes -/

theorem RolesBacked.everyoneNamed (h : RolesBacked view) : EveryoneNamed view := by
  intro role hrole participant hpart
  obtain ⟨relation, hmem, hconf, hkind, hacc, hident, -⟩ := h role hrole participant hpart
  exact ⟨relation, hmem, hconf, hkind, hacc, (Prod.mk.inj hident).2⟩

theorem RolesBacked.noStandIn (h : RolesBacked view) : NoStandIn view := by
  intro role hrole participant hpart _
  obtain ⟨relation, hmem, hconf, hkind, hacc, hident, hown, id, -, hread, -⟩ :=
    h role hrole participant hpart
  obtain ⟨hplat, hid⟩ := Prod.mk.inj hident
  exact ⟨relation, ⟨hmem, hconf, hkind, hacc, hid⟩, hplat, hown, hread⟩

theorem rolesBacked_of_noStandIn (hnamed : EveryoneNamed view) (hrea : RolesReadable view)
    (hown : NoStandIn view) : RolesBacked view := by
  intro role hrole participant hpart
  obtain ⟨relation, ⟨hmem, hconf, hkind, hacc, hid⟩, hplat, hsame, hview⟩ :=
    hown role hrole participant hpart (hnamed role hrole participant hpart)
  obtain ⟨source, hsrc, href⟩ := hrea relation hmem hconf
    (hkind ▸ isRole_of_mem_roleLists hrole)
  exact ⟨relation, hmem, hconf, hkind, hacc, Prod.ext hplat hid, hsame, source, hsrc,
    hview, href⟩

/-- A row of the view `secretary_event_relations`; an actor is a kind and an id. -/
structure StructuralRelationRow where
  kind : EventRelationKind
  subject : PlatformIdentityKind × String
  threadId : Option EventThreadId
  confirmed : Bool

structure ConfirmedRequesterData where
  claimant : PlatformIdentityKind × String
  sourceEventIds : List SourceEventId

structure ConfirmedCommitmentData where
  promisor : PlatformIdentityKind × String
  beneficiary : PlatformIdentityKind × String
  sourceEventIds : List SourceEventId

/-- What `event_causal_context` of `mysql_retriever.rs` has read for an event, all of it valid. -/
structure LoadedContext where
  sourceEventId : SourceEventId
  account : SourceAccountRef
  replyToEventId : Option SourceEventId
  replyParent : Option SourceEventId
  /-- The thread of the event and its root event. -/
  thread : Option (EventThreadId × SourceEventId)
  mentionedActorIds : List String
  participants : List EventParticipantSummary
  structural : List StructuralRelationRow
  confirmedRequesters : List ConfirmedRequesterData
  confirmedCommitments : List ConfirmedCommitmentData

def accountScoped (account : SourceAccountRef) (actor : PlatformIdentityKind × String) :
    AccountScopedParticipantRef :=
  ⟨account, ⟨actor.1, actor.2, none, [], if actor.1 = .owner then .verified else .observed⟩⟩

def pushSource (sourceRefs : List SourceEventId) (id : SourceEventId) : List SourceEventId :=
  if id ∉ sourceRefs ∧ sourceRefs.length < MAX_CAUSAL_SOURCE_REFS then sourceRefs ++ [id]
  else sourceRefs

namespace LoadedContext

variable (loaded : LoadedContext)

def structuralRelation (row : StructuralRelationRow) : EventRelation :=
  let subject := accountScoped loaded.account row.subject
  ⟨row.kind, loaded.account, subject, row.threadId, [loaded.sourceEventId], subject.identity.trust,
    row.confirmed, none⟩

/-- A relation of a role, with the first of its sources. -/
def roleRelation (kind : EventRelationKind) (actor : PlatformIdentityKind × String)
    (sources : List SourceEventId) : EventRelation :=
  ⟨kind, loaded.account, accountScoped loaded.account actor, loaded.thread.map Prod.fst,
    sources.take MAX_RELATION_SOURCES, .verified, true, none⟩

def relations : List EventRelation :=
  ((loaded.structural.map loaded.structuralRelation).filter fun relation =>
      !(loaded.replyToEventId.isSome && loaded.replyParent.isNone && relation.kind = .repliesTo)) ++
    loaded.confirmedRequesters.map (fun claim =>
      loaded.roleRelation .requestedBy claim.claimant claim.sourceEventIds) ++
    loaded.confirmedCommitments.flatMap fun commitment =>
      [loaded.roleRelation .promisedBy commitment.promisor commitment.sourceEventIds,
        loaded.roleRelation .benefits commitment.beneficiary commitment.sourceEventIds]

def sourceRefs : List SourceEventId :=
  (loaded.sourceEventId :: loaded.replyParent.toList ++ (loaded.thread.map Prod.snd).toList ++
    loaded.confirmedRequesters.flatMap (·.sourceEventIds.take MAX_RELATION_SOURCES) ++
    loaded.confirmedCommitments.flatMap (·.sourceEventIds.take MAX_RELATION_SOURCES)).foldl
      pushSource []

/-- The view; the rows of the mentioned and of the participants are read up to their limits. -/
def toView : EventCausalContextView where
  sourceEventId := loaded.sourceEventId
  account := loaded.account
  mentioned := (loaded.mentionedActorIds.take MAX_CAUSAL_MENTIONED).map fun actorId =>
    accountScoped loaded.account (.external, actorId)
  requesters := loaded.confirmedRequesters.map (accountScoped loaded.account ·.claimant)
  assignees := []
  promisors := loaded.confirmedCommitments.map (accountScoped loaded.account ·.promisor)
  beneficiaries := loaded.confirmedCommitments.map (accountScoped loaded.account ·.beneficiary)
  participants := loaded.participants.take MAX_CAUSAL_PARTICIPANTS
  relations := loaded.relations
  ambiguous := false
  sourceRefs := loaded.sourceRefs

variable {loaded} {participant : AccountScopedParticipantRef}

theorem length_sourceRefs : loaded.sourceRefs.length ≤ MAX_CAUSAL_SOURCE_REFS := by
  refine List.foldlRecOn (b := []) (motive := (·.length ≤ MAX_CAUSAL_SOURCE_REFS)) _ pushSource
    (Nat.zero_le _) fun refs hle id _ => ?_
  unfold pushSource
  split
  · next hpush =>
    rw [List.length_append]
    exact hpush.2
  · exact hle

/-- Who is listed has a relation of the role. -/
theorem listed {role : String × List AccountScopedParticipantRef × EventRelationKind}
    (hrole : role ∈ roleLists loaded.toView) (hpart : participant ∈ role.2.1) :
    ∃ actor sources, participant = accountScoped loaded.account actor ∧
      loaded.roleRelation role.2.2 actor sources ∈ loaded.relations := by
  simp only [roleLists, List.mem_cons, List.not_mem_nil, or_false] at hrole
  rcases hrole with rfl | rfl | rfl | rfl
  · obtain ⟨claim, hclaim, rfl⟩ := List.mem_map.mp hpart
    exact ⟨_, _, rfl, List.mem_append_left _ (List.mem_append_right _ (List.mem_map_of_mem hclaim))⟩
  · cases hpart
  · obtain ⟨commitment, hcom, rfl⟩ := List.mem_map.mp hpart
    exact ⟨_, commitment.sourceEventIds, rfl, List.mem_append_right _ (List.mem_flatMap.mpr
      ⟨_, hcom, List.mem_cons_self⟩)⟩
  · obtain ⟨commitment, hcom, rfl⟩ := List.mem_map.mp hpart
    exact ⟨_, commitment.sourceEventIds, rfl, List.mem_append_right _ (List.mem_flatMap.mpr
      ⟨_, hcom, List.mem_cons_of_mem _ List.mem_cons_self⟩)⟩

theorem everyoneNamed : EveryoneNamed loaded.toView := by
  intro role hrole participant hpart
  obtain ⟨actor, sources, rfl, hmem⟩ := listed hrole hpart
  exact ⟨loaded.roleRelation role.2.2 actor sources, hmem, rfl, rfl, rfl, rfl⟩

theorem noStandIn : NoStandIn loaded.toView := by
  intro role hrole participant hpart _
  obtain ⟨actor, sources, rfl, hmem⟩ := listed hrole hpart
  exact ⟨loaded.roleRelation role.2.2 actor sources, ⟨hmem, rfl, rfl, rfl, rfl⟩, rfl, rfl, rfl⟩

theorem bounded_iff : Bounded loaded.toView ↔ loaded.relations.length ≤ MAX_CAUSAL_RELATIONS := by
  refine ⟨fun h => h.2.2.1, fun h => ⟨?_, ?_, h, length_sourceRefs, fun relation hrel => ?_⟩⟩
  · simp [toView]
  · simp [toView]
  · rcases List.mem_append.mp hrel with hrel | hrel
    · rcases List.mem_append.mp hrel with hrel | hrel
      · obtain ⟨row, -, rfl⟩ := List.mem_map.mp (List.mem_filter.mp hrel).1
        exact Nat.le_of_ble_eq_true rfl
      · obtain ⟨claim, -, rfl⟩ := List.mem_map.mp hrel
        exact List.length_take_le ..
    · obtain ⟨commitment, -, hrel⟩ := List.mem_flatMap.mp hrel
      simp only [List.mem_cons, List.not_mem_nil, or_false] at hrel
      rcases hrel with rfl | rfl
      all_goals exact List.length_take_le ..

/-- A view of the store is let out when it has few enough relations, and the first of its source
references are enough to read those of a role. Then everyone listed has a relation of their own. -/
theorem built_view_iff (account : SourceAccountRef) (sourceEventId : SourceEventId) :
    (eventCausalContext ⟨fun _ _ => .ok (some loaded.toView)⟩ account sourceEventId =
        .ok (some loaded.toView) ↔
      loaded.relations.length ≤ MAX_CAUSAL_RELATIONS ∧ RolesReadable loaded.toView) ∧
    (RolesReadable loaded.toView → RolesBacked loaded.toView) := by
  rw [eventCausalContext_eq_ok, bounded_iff, and_iff_right everyoneNamed]
  exact ⟨Iff.rfl, fun hrea => rolesBacked_of_noStandIn everyoneNamed hrea noStandIn⟩

end LoadedContext

/-! ## A bot with the number of a person -/

namespace Scripted

def account : SourceAccountRef := ⟨.napCat, "10001"⟩

def person (kind : PlatformIdentityKind) : AccountScopedParticipantRef :=
  ⟨account, ⟨kind, "30001", none, [], .verified⟩⟩

end Scripted

end ServerRS.Retrieval

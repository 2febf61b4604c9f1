import ServerRS.Participants.Rows

/-!
# Values and their evidence

A participant is stored under the latest values, each with the event that began its run, and with the
ten latest events as sources (`rows_keep`). These sources are a history: after a change they still
hold events of the former value (`former_value_in_sources`), and ten equal messages later they have
lost the event that established the value. `run_tracks_iff` says when they are evidence of the current
value only: the events of the last run have to be the ten latest ones. There an empty card, which every
message establishes anew, and an eleventh former name, which is not kept, fail too.
-/

namespace ServerRS.Participants

open Lib

/-! ## What the rows should hold -/

/-- The events behind the current value: the one that established it, and some that showed it. -/
structure Evidence {κ : Type} [DecidableEq κ] (value : Observed → κ) (events : List Observed)
    (establishedByEventId : Option String) (sourceEventIds : List String) : Prop where
  established : establishedByEventId =
    (lastRun value events).head?.map Observed.sourceEventId
  nodup : sourceEventIds.Nodup
  showed : ∀ id ∈ sourceEventIds, ∃ event ∈ events, event.sourceEventId = id ∧
    events.getLast?.map value = some (value event)
  bounded : sourceEventIds.length ≤ 10
  latest : sourceEventIds.getLast? = events.getLast?.map Observed.sourceEventId
  recent : sourceEventIds.tail <:+ events.map Observed.sourceEventId
  establishing : ∀ id ∈ establishedByEventId, id ∈ sourceEventIds

/-- The ten former names that were given up last, once each. -/
def recentNames (events : List Observed) : List String :=
  ((formerNames events).map Observed.displayName).dedup.rtake 10

/-- The ten former names that were given up first. -/
def firstNames (events : List Observed) : List String :=
  (firsts ((formerNames events).map Observed.displayName)).take 10

structure TracksProfile (events : List Observed) (row : ProfileRow) : Prop where
  displayName : events.getLast?.map Observed.displayName = some row.displayName
  evidence : Evidence Observed.displayName events row.establishedByEventId row.sourceEventIds
  aliasesBounded : row.aliases.length ≤ 10
  aliases : ∀ name ∈ recentNames events, ∃ entry ∈ row.aliases, entry.«alias» = name
  aliasSources : ∀ entry ∈ row.aliases, ∃ former ∈ formerNames events,
    entry = ⟨former.displayName, former.sourceEventId⟩

structure TracksObservation (events : List Observed) (row : ObservationRow) : Prop where
  value : events.getLast?.map (fun event => (event.groupCard, event.groupRole.asStr)) =
    some (row.groupCard.getD "", row.groupRole)
  evidence : Evidence Observed.membership events row.establishedByEventId row.sourceEventIds

structure Tracks (kind : ConversationKind) (deliveries : List Delivery) (state : Participant) :
    Prop where
  profile : Kept TracksProfile (observed deliveries) state.profile
  observation : kind = .group → Kept TracksObservation (observed deliveries) state.observation
  duplicate : ∀ delivery, (∃ earlier ∈ accepted deliveries,
    earlier.platformEventId = delivery.platformEventId) → after state delivery = state

/-- The events of the last run are the ten latest ones, or all when there are fewer. -/
def Windowed {κ : Type} [DecidableEq κ] (value : Observed → κ) (events : List Observed) : Prop :=
  lastRun value events = events.rtake 10

/-- The messages for which the rows hold what they should. -/
structure Steady (kind : ConversationKind) (events : List Observed) : Prop where
  displayName : Windowed Observed.displayName events
  formerNames : ∀ name ∈ recentNames events, name ∈ firstNames events
  membership : kind = .group → Windowed Observed.membership events
  groupCard : kind = .group → ∀ last, events.getLast? = some last → last.groupCard = "" →
    lastRun Observed.membership events = [last]

/-! ## What the rows hold -/

/-- The ten latest events, each once. -/
structure Latest (events : List Observed) (sourceEventIds : List String) : Prop where
  sources : sourceEventIds = (events.map Observed.sourceEventId).rtake 10
  nodup : sourceEventIds.Nodup

/-- The event that began the run of the current value, a source until ten later events replace it. -/
structure EstablishedBy {κ : Type} [DecidableEq κ] (value : Observed → κ) (events : List Observed)
    (establishedByEventId : Option String) (sourceEventIds : List String) : Prop where
  established : establishedByEventId =
    (lastRun value events).head?.map Observed.sourceEventId
  mem_sources : (lastRun value events).length ≤ 10 → ∀ id ∈ establishedByEventId, id ∈ sourceEventIds

structure KeepsProfile (events : List Observed) (row : ProfileRow) : Prop where
  displayName : events.getLast?.map Observed.displayName = some row.displayName
  sources : Latest events row.sourceEventIds
  established :
    EstablishedBy Observed.displayName events row.establishedByEventId row.sourceEventIds
  aliasesBounded : row.aliases.length ≤ 10
  aliases : ((formerNames events).map Observed.displayName).dedup.length ≤ 10 →
    ∀ former ∈ formerNames events, ∃ entry ∈ row.aliases, entry.«alias» = former.displayName
  aliasSources : ∀ entry ∈ row.aliases, ∃ former ∈ formerNames events,
    entry = ⟨former.displayName, former.sourceEventId⟩

structure KeepsObservation (events : List Observed) (row : ObservationRow) : Prop where
  value : events.getLast?.map (fun event => (event.groupCard, event.groupRole.asStr)) =
    some (row.groupCard.getD "", row.groupRole)
  sources : Latest events row.sourceEventIds
  established : row.groupCard ≠ none →
    EstablishedBy Observed.membership events row.establishedByEventId row.sourceEventIds

structure Keeps (kind : ConversationKind) (deliveries : List Delivery) (state : Participant) :
    Prop where
  profile : Kept KeepsProfile (observed deliveries) state.profile
  observation : kind = .group → Kept KeepsObservation (observed deliveries) state.observation
  duplicate : ∀ delivery, (∃ earlier ∈ accepted deliveries,
    earlier.platformEventId = delivery.platformEventId) → after state delivery = state

variable {account : SourceAccountRef} {conversation : ConversationRef} {actor : VerifiedActor}
  {deliveries : List Delivery} {delivery : Delivery} {state : Participant}
  {events : List Observed} {event : Observed} {κ : Type} [DecidableEq κ] {value : Observed → κ}

/-! ## Sources -/

/-- The latest events are evidence of the value exactly when they are its run. -/
theorem evidence_iff {established : Option String} (hne : events ≠ [])
    (hids : (events.map Observed.sourceEventId).Nodup) :
    Evidence value events established ((events.map Observed.sourceEventId).rtake 10) ↔
      established = (lastRun value events).head?.map Observed.sourceEventId ∧
        Windowed value events := by
  have hinj : ∀ a ∈ events, ∀ b ∈ events, a.sourceEventId = b.sourceEventId → a = b :=
    fun a ha b hb => List.inj_on_of_nodup_map hids ha hb
  have hnd : events.Nodup := hids.of_map _
  have hwdw : events.rtake 10 ⊆ events := rtake_suffix.subset
  rw [rtake_map]
  constructor
  · intro h
    refine ⟨h.established, ?_⟩
    -- every event of the window showed the value, so the window is an end of the run
    have hend : events.rtake 10 <:+ lastRun value events := by
      refine (forall_suffix_iff rtake_suffix).mp fun event hev => ?_
      obtain ⟨other, hoth, hid, hvl⟩ := h.showed _ (List.mem_map_of_mem hev)
      rw [hinj other hoth event (hwdw hev) hid] at hvl
      exact hvl
    obtain ⟨front, hfront⟩ := hend
    cases front with
    | nil => exact hfront.symm
    | cons head front =>
      -- the run began before the window, which holds its first event
      have hhead : head.sourceEventId ∈ (events.rtake 10).map Observed.sourceEventId := by
        refine h.establishing _ ?_
        rw [h.established, ← hfront]
        rfl
      obtain ⟨other, hoth, hid⟩ := List.mem_map.mp hhead
      have hrun : (head :: front ++ events.rtake 10).Nodup :=
        hfront ▸ hnd.sublist lastRun_suffix.sublist
      have hin : head ∈ events := lastRun_suffix.subset <| by
        rw [← hfront]
        exact List.mem_cons_self
      rw [hinj other (hwdw hoth) head hin hid] at hoth
      exact absurd (List.mem_append_right _ hoth) (List.nodup_cons.mp hrun).1
  · rintro ⟨hest, hrun⟩
    have hlast : (events.rtake 10).getLast? = events.getLast? := by
      obtain ⟨rest, last, rfl⟩ := (List.eq_nil_or_concat events).resolve_left hne
      rw [List.concat_eq_append, List.rtake_concat_succ, List.getLast?_concat, List.getLast?_concat]
    refine ⟨hest, ?_, ?_, ?_, ?_, ?_, ?_⟩
    · rw [← rtake_map]
      exact hids.sublist rtake_suffix.sublist
    · intro id hid
      obtain ⟨event, hev, rfl⟩ := List.mem_map.mp hid
      exact ⟨event, hwdw hev, rfl, key_of_mem_lastRun (hrun ▸ hev)⟩
    · rw [List.length_map, List.rtake, List.length_drop]
      omega
    · rw [List.getLast?_map, hlast]
    · rw [← rtake_map]
      exact (List.tail_suffix _).trans rtake_suffix
    · intro id hid
      rw [hest, hrun] at hid
      obtain ⟨head, hhead, rfl⟩ := Option.map_eq_some_iff.mp hid
      exact List.mem_map_of_mem (List.mem_of_head? hhead)

/-! ## The rows -/

theorem latest_of_nodup (hids : (events.map Observed.sourceEventId).Nodup) :
    Latest events ((events.map Observed.sourceEventId).rtake 10) :=
  ⟨rfl, hids.sublist rtake_suffix.sublist⟩

theorem establishedBy_head : EstablishedBy value events
    ((lastRun value events).head?.map Observed.sourceEventId)
    ((events.map Observed.sourceEventId).rtake 10) := by
  refine ⟨rfl, fun hlen id hid => ?_⟩
  obtain ⟨head, hhead, rfl⟩ := Option.map_eq_some_iff.mp hid
  -- a run of at most ten events lies in the window
  have hwdw : lastRun value events <:+ events.rtake 10 := by
    refine List.suffix_of_suffix_length_le lastRun_suffix rtake_suffix ?_
    have hle : (lastRun value events).length ≤ events.length := lastRun_suffix.length_le
    rw [List.rtake, List.length_drop]
    omega
  rw [rtake_map]
  exact List.mem_map_of_mem (hwdw.subset (List.mem_of_head? hhead))

variable {row : ProfileRow}

theorem Profiled.aliasesBounded (h : Profiled events row) : row.aliases.length ≤ 10 := by
  have hlen := congrArg List.length h.aliases
  rw [List.length_map, List.length_take] at hlen
  omega

theorem Profiled.keeps (h : Profiled events row) (hids : (events.map Observed.sourceEventId).Nodup) :
    KeepsProfile events row := by
  refine ⟨h.displayName, h.sourceEventIds ▸ latest_of_nodup hids, ?_, h.aliasesBounded, ?_,
    h.established⟩
  · rw [h.establishedByEventId, h.sourceEventIds]
    exact establishedBy_head
  · intro hfew former hformer
    have hname : former.displayName ∈ row.aliases.map AliasEntry.«alias» := by
      rw [h.aliases, List.take_of_length_le (length_firsts.trans_le hfew)]
      exact mem_firsts.mpr (List.mem_map_of_mem hformer)
    exact List.mem_map.mp hname

/-- The stored card and role are those of the last event; an absent card and an empty one are alike. -/
theorem Positioned.current {row : ObservationRow} (h : Positioned events row) :
    events.getLast?.map (fun event => (event.groupCard, event.groupRole.asStr)) =
      some (row.groupCard.getD "", row.groupRole) := by
  obtain ⟨last, hlast, hvl⟩ := Option.map_eq_some_iff.mp h.value
  obtain ⟨hcard, hrole⟩ := Prod.mk.inj hvl
  rw [hlast, ← hcard, ← hrole, nullIfEmpty]
  split
  · next hemp => rw [Option.map_some, hemp, Option.getD_none]
  · rfl

theorem Positioned.keeps {row : ObservationRow} (h : Positioned events row)
    (hids : (events.map Observed.sourceEventId).Nodup) : KeepsObservation events row := by
  refine ⟨h.current, h.sourceEventIds ▸ latest_of_nodup hids, fun hpres => ?_⟩
  rw [h.establishedByEventId, if_neg hpres, h.sourceEventIds]
  exact establishedBy_head

theorem Profiled.tracks_iff (h : Profiled events row)
    (hids : (events.map Observed.sourceEventId).Nodup) :
    TracksProfile events row ↔ Windowed Observed.displayName events ∧
      ∀ name ∈ recentNames events, name ∈ firstNames events := by
  have hne : events ≠ [] := by
    rintro rfl
    cases h.displayName
  have hevi : Evidence Observed.displayName events row.establishedByEventId
      row.sourceEventIds ↔ Windowed Observed.displayName events := by
    rw [h.sourceEventIds, evidence_iff hne hids, and_iff_right h.establishedByEventId]
  have hali : (∀ name ∈ recentNames events, ∃ entry ∈ row.aliases, entry.«alias» = name) ↔
      ∀ name ∈ recentNames events, name ∈ firstNames events := by
    simp only [firstNames, ← h.aliases, List.mem_map]
  constructor
  · intro htrk
    exact ⟨hevi.mp htrk.evidence, hali.mp htrk.aliases⟩
  · rintro ⟨hwind, hnames⟩
    exact ⟨h.displayName, hevi.mpr hwind, h.aliasesBounded, hali.mpr hnames,
      h.established⟩

theorem Positioned.tracks_iff {row : ObservationRow} (h : Positioned events row)
    (hids : (events.map Observed.sourceEventId).Nodup) :
    TracksObservation events row ↔ Windowed Observed.membership events ∧
      ∀ last, events.getLast? = some last → last.groupCard = "" →
        lastRun Observed.membership events = [last] := by
  obtain ⟨last, hlast, hvl⟩ := Option.map_eq_some_iff.mp h.value
  have hcard := (Prod.mk.inj hvl).1
  have hne : events ≠ [] := by
    rintro rfl
    cases hlast
  obtain ⟨rest, hend⟩ := List.getLast?_eq_some_iff.mp hlast
  have hlastRun : ∃ front, lastRun Observed.membership events = front ++ [last] := by
    rw [hend, lastRun_snoc]
    split
    · exact ⟨_, rfl⟩
    · exact ⟨[], rfl⟩
  obtain ⟨front, hfront⟩ := hlastRun
  -- an empty card is established by the last event, which is the first of its run when it is alone
  have hest : row.establishedByEventId =
        (lastRun Observed.membership events).head?.map Observed.sourceEventId ↔
      (last.groupCard = "" → lastRun Observed.membership events = [last]) := by
    rw [h.establishedByEventId, ← hcard]
    split
    · next hnull =>
      have hemp := nullIfEmpty_eq_none.mp hnull
      rw [hlast, hfront]
      cases front with
      | nil => exact iff_of_true rfl fun _ => rfl
      | cons head front =>
        have hdist : ((head :: front ++ [last]).map Observed.sourceEventId).Nodup :=
          hfront ▸ hids.sublist (lastRun_suffix.sublist.map _)
        have hlonger : head :: front ++ [last] ≠ [last] := fun heq => by
          have hlen := congrArg List.length heq
          rw [List.cons_append, List.length_cons, List.length_append] at hlen
          omega
        refine iff_of_false ?_ fun himp => hlonger (himp hemp)
        intro heq
        have hin : head.sourceEventId ∈ (front ++ [last]).map Observed.sourceEventId := by
          rw [← Option.some.inj heq]
          exact List.mem_map_of_mem (List.mem_append_right _ (List.mem_singleton_self _))
        exact (List.nodup_cons.mp hdist).1 hin
    · next hpres =>
      exact iff_of_true rfl fun hemp => absurd (nullIfEmpty_eq_none.mpr hemp) hpres
  have hevi : Evidence Observed.membership events row.establishedByEventId
      row.sourceEventIds ↔ Windowed Observed.membership events ∧
        ∀ last, events.getLast? = some last → last.groupCard = "" →
          lastRun Observed.membership events = [last] := by
    rw [h.sourceEventIds, evidence_iff hne hids, hest, and_comm, hlast]
    simp only [Option.some_inj, forall_eq']
  exact ⟨fun htrk => hevi.mp htrk.evidence, fun hcond => ⟨h.current, hevi.mpr hcond⟩⟩

/-! ## A sequence of messages -/

theorem sourceEventId_of_observed (h : delivery.observed = some event) :
    event.sourceEventId = delivery.proposedEventId.asStr := by
  obtain ⟨profile, -, hev⟩ := Option.bind_eq_some_iff.mp h
  split at hev
  · cases hev
    rfl
  · cases hev

theorem nodup_observed (hids : (deliveries.map Delivery.proposedEventId).Nodup) :
    ((observed deliveries).map Observed.sourceEventId).Nodup := by
  have hacpt := List.pairwise_map.mp (hids.sublist (accepted_spec.1.map _))
  rw [List.Nodup, List.pairwise_map, observed]
  refine hacpt.filterMap _ fun a b hne first hfst second hsec heq => hne ?_
  rw [sourceEventId_of_observed hfst, sourceEventId_of_observed hsec] at heq
  exact SourceEventId.asStr_injective heq

/-- A row that holds what it should under a condition on the events, which no event fails. -/
theorem Kept.iff {α : Type} {stored tracks : List Observed → α → Prop} {condition : Prop}
    {row : Option α} (h : Kept stored events row)
    (hiff : ∀ value, stored events value → (tracks events value ↔ condition))
    (hemp : events = [] → condition) : Kept tracks events row ↔ condition := by
  rcases h with ⟨hnone, hevs⟩ | ⟨value, hsome, hvl⟩
  · exact iff_of_true (.inl ⟨hnone, hevs⟩) (hemp hevs)
  · rw [← hiff value hvl]
    constructor
    · rintro (⟨hnone, -⟩ | ⟨other, hoth, htrk⟩)
      · cases hsome.symm.trans hnone
      · rw [Option.some.inj (hsome.symm.trans hoth)]
        exact htrk
    · exact fun htrk => .inr ⟨value, hsome, htrk⟩

theorem Kept.imp {α : Type} {stored keeps : List Observed → α → Prop} {row : Option α}
    (h : Kept stored events row) (himp : ∀ value, stored events value → keeps events value) :
    Kept keeps events row := by
  rcases h with hnone | ⟨value, hsome, hvl⟩
  · exact .inl hnone
  · exact .inr ⟨value, hsome, himp value hvl⟩

/-- Whatever the messages show, the rows hold the latest values and their history. -/
theorem rows_keep (hfrom : FromOne account conversation actor deliveries)
    (hids : (deliveries.map Delivery.proposedEventId).Nodup) :
    Keeps conversation.kind deliveries (run deliveries) := by
  have hstd := run_stored hfrom hids
  have hdist := nodup_observed hids
  refine ⟨hstd.profile.imp fun row hrow => hrow.keeps hdist,
    fun hgrp => (hstd.observation hgrp).imp fun row hrow => hrow.keeps hdist, ?_⟩
  intro delivery hkn
  exact after_of_known hstd fun _ => hkn

namespace Scripted

def owner : SourceAccountRef := ⟨.napCat, "10001"⟩
def room : ConversationRef := ⟨.group, "20002"⟩
def bob : VerifiedActor := ⟨.external, "30003"⟩

theorem first_not_blank : isBlank "0c6f0fd6-2f6b-4d59-8a32-5d9f2f7b0c11" = false := by decide

theorem second_not_blank : isBlank "7a1b0f0e-94f5-4c7e-b1a4-0d9a6a1c2e22" = false := by decide

def first : SourceEventId := ⟨"0c6f0fd6-2f6b-4d59-8a32-5d9f2f7b0c11", first_not_blank⟩
def second : SourceEventId := ⟨"7a1b0f0e-94f5-4c7e-b1a4-0d9a6a1c2e22", second_not_blank⟩

/-- A message of the group that shows a nickname, a card and a role. -/
def message (messageId : String) (profile : ObservedSenderProfile) : InboundMessageEnvelope :=
  ⟨⟨.napCat, "10001", messageId⟩, room, bob, 1800000000, "", [], none, some profile⟩

/-- The participant changes the nickname. -/
def renamed : List Delivery :=
  [⟨message "m1" ⟨"Bob", some "B", some "member"⟩, first, true⟩,
    ⟨message "m2" ⟨"Bobby", some "B", some "member"⟩, second, true⟩]

theorem renamed_fromOne : FromOne owner room bob renamed := by
  intro delivery hmem
  rcases List.mem_cons.mp hmem with rfl | hmem
  · exact ⟨rfl, rfl, rfl⟩
  · rw [List.mem_singleton.mp hmem]
    exact ⟨rfl, rfl, rfl⟩

theorem renamed_nodup : (renamed.map Delivery.proposedEventId).Nodup := by decide

theorem rows_keep_renamed : Keeps .group renamed (run renamed) :=
  rows_keep renamed_fromOne renamed_nodup

/-- The sources of the new name hold the event that showed the old one. -/
theorem former_value_in_sources : FromOne owner room bob renamed ∧
    (renamed.map Delivery.proposedEventId).Nodup ∧ ¬ Tracks .group renamed (run renamed) := by
  refine ⟨renamed_fromOne, renamed_nodup, fun h => ?_⟩
  have hrow : (run renamed).profile =
      some ⟨"Bobby", [⟨"Bob", first.asStr⟩], [first.asStr, second.asStr], some second.asStr⟩ := by
    decide
  have hevs : observed renamed =
      [⟨first.asStr, "Bob", "B", .member⟩, ⟨second.asStr, "Bobby", "B", .member⟩] := by
    decide
  have hprof := h.profile
  rw [hrow, hevs] at hprof
  rcases hprof with ⟨hnone, -⟩ | ⟨row, hsome, htrk⟩
  · cases hnone
  · rw [← Option.some.inj hsome] at htrk
    obtain ⟨event, hev, hid, hvl⟩ := htrk.evidence.showed first.asStr List.mem_cons_self
    rcases List.mem_cons.mp hev with rfl | hev
    · exact absurd (Option.some.inj hvl) (by decide)
    · rw [List.mem_singleton.mp hev] at hid
      exact absurd hid (by decide)

end Scripted

/-- The rows of a participant track the messages exactly when these are steady. -/
theorem run_tracks_iff (hfrom : FromOne account conversation actor deliveries)
    (hids : (deliveries.map Delivery.proposedEventId).Nodup) :
    Tracks conversation.kind deliveries (run deliveries) ↔
      Steady conversation.kind (observed deliveries) := by
  have hstd := run_stored hfrom hids
  have hdist := nodup_observed hids
  have hprof : Kept TracksProfile (observed deliveries) (run deliveries).profile ↔
      Windowed Observed.displayName (observed deliveries) ∧
        ∀ name ∈ recentNames (observed deliveries), name ∈ firstNames (observed deliveries) := by
    refine hstd.profile.iff (fun row hrow => hrow.tracks_iff hdist)
      fun (hemp : observed deliveries = []) => ?_
    rw [hemp]
    exact ⟨rfl, fun _ hname => by cases hname⟩
  have hobs : conversation.kind = .group →
      (Kept TracksObservation (observed deliveries) (run deliveries).observation ↔
        Windowed Observed.membership (observed deliveries) ∧
          ∀ last, (observed deliveries).getLast? = some last → last.groupCard = "" →
            lastRun Observed.membership (observed deliveries) = [last]) := by
    intro hgrp
    refine (hstd.observation hgrp).iff (fun row hrow => hrow.tracks_iff hdist)
      fun (hemp : observed deliveries = []) => ?_
    rw [hemp]
    exact ⟨rfl, fun _ hlast => by cases hlast⟩
  constructor
  · intro h
    obtain ⟨hwind, hnames⟩ := hprof.mp h.profile
    exact ⟨hwind, hnames, fun hgrp => ((hobs hgrp).mp (h.observation hgrp)).1,
      fun hgrp => ((hobs hgrp).mp (h.observation hgrp)).2⟩
  · intro h
    refine ⟨hprof.mpr ⟨h.displayName, h.formerNames⟩,
      fun hgrp => (hobs hgrp).mpr ⟨h.membership hgrp, h.groupCard hgrp⟩, ?_⟩
    intro delivery hkn
    exact after_of_known hstd fun _ => hkn

theorem run_tracks_iff_renamed :
    Tracks .group Scripted.renamed (run Scripted.renamed) ↔ Steady .group (observed Scripted.renamed) :=
  run_tracks_iff Scripted.renamed_fromOne Scripted.renamed_nodup

end ServerRS.Participants

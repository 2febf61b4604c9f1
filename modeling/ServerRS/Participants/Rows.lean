import ServerRS.NapCat.Kept
import ServerRS.Participants.Observations

/-!
# What the rows hold

`run_stored`: after any sequence of messages of one participant in one conversation the rows are given
by the messages that were accepted. The sources are those of the last ten messages, whatever they
showed. The aliases are the first ten former names. The event that established a profile is the one
its run of equal names began with; that of an observation too, unless the card is empty: then every
message establishes it anew.
-/

namespace ServerRS.Participants

open Lib

/-! ## What messages show -/

/-- What an accepted message shows of its sender. -/
structure Observed where
  sourceEventId : String
  displayName : String
  groupCard : String
  groupRole : GroupRole
deriving DecidableEq

/-- The card and the role in a group; an absent card is an empty one. -/
def Observed.membership (self : Observed) : String × GroupRole := (self.groupCard, self.groupRole)

def Delivery.observed (self : Delivery) : Option Observed :=
  self.message.senderProfile.bind fun profile =>
    if self.observationAllowed then
      some ⟨self.proposedEventId.asStr, profile.nickname, profile.groupCard.getD "",
        GroupRole.parseProtocol profile.groupRole⟩
    else none

/-- The messages that the store takes: the first one under each id among those that are valid. -/
def accepted (deliveries : List Delivery) : List Delivery :=
  insertIgnore (fun a b => decide (b.platformEventId = a.platformEventId)) []
    (deliveries.filter fun delivery => delivery.message.validate.isOk)

def observed (deliveries : List Delivery) : List Observed :=
  (accepted deliveries).filterMap Delivery.observed

/-- The messages are from one participant in one conversation. -/
def FromOne (account : SourceAccountRef) (conversation : ConversationRef) (actor : VerifiedActor)
    (deliveries : List Delivery) : Prop :=
  ∀ delivery ∈ deliveries, delivery.message.source.accountRef = account ∧
    delivery.message.conversation = conversation ∧ delivery.message.actor = actor

/-- The names that were given up, with the events that established them. -/
def formerNames (events : List Observed) : List Observed :=
  (runHeads Observed.displayName events).dropLast.filter fun event => decide (event.displayName ≠ "")

/-! ## The rows of the accepted messages -/

structure Profiled (events : List Observed) (row : ProfileRow) : Prop where
  displayName : events.getLast?.map Observed.displayName = some row.displayName
  establishedByEventId : row.establishedByEventId =
    (lastRun Observed.displayName events).head?.map Observed.sourceEventId
  sourceEventIds : row.sourceEventIds = (events.map Observed.sourceEventId).rtake 10
  aliases : row.aliases.map AliasEntry.«alias» =
    (firsts ((formerNames events).map Observed.displayName)).take 10
  established : ∀ entry ∈ row.aliases, ∃ former ∈ formerNames events,
    entry = ⟨former.displayName, former.sourceEventId⟩

structure Positioned (events : List Observed) (row : ObservationRow) : Prop where
  value : events.getLast?.map (fun event => (nullIfEmpty event.groupCard, event.groupRole.asStr)) =
    some (row.groupCard, row.groupRole)
  establishedByEventId : row.establishedByEventId =
    if row.groupCard = none then events.getLast?.map Observed.sourceEventId
    else (lastRun Observed.membership events).head?.map Observed.sourceEventId
  sourceEventIds : row.sourceEventIds = (events.map Observed.sourceEventId).rtake 10

/-- There is a row, that of the events, when there is an event. -/
def Kept {α : Type} (rows : List Observed → α → Prop) (events : List Observed) (row : Option α) : Prop :=
  row = none ∧ events = [] ∨ ∃ value, row = some value ∧ rows events value

structure Stored (kind : ConversationKind) (messages : List Delivery) (state : Participant) :
    Prop where
  sourceEvents : state.sourceEvents =
    messages.map fun delivery => ⟨delivery.platformEventId, delivery.proposedEventId⟩
  profile : Kept Profiled (messages.filterMap Delivery.observed) state.profile
  observation : kind = .group →
    Kept Positioned (messages.filterMap Delivery.observed) state.observation

variable {account : SourceAccountRef} {conversation : ConversationRef} {actor : VerifiedActor}
  {deliveries messages : List Delivery} {delivery : Delivery} {state : Participant}
  {events : List Observed} {event : Observed} {ids : List String} {id : String}

/-! ## Sources -/

theorem appendSource_rtake (hnew : id ∉ ids) :
    appendSource (ids.rtake 10) id = (ids ++ [id]).rtake 10 := by
  rw [appendSource, if_neg fun hmem => hnew (rtake_suffix.subset hmem), rtake_concat]
  rfl

theorem takeChars_of_le {value : String} (h : value.length ≤ 200) : takeChars value = value := by
  rw [takeChars, List.take_of_length_le (by rwa [String.length_toList]), String.ofList_toList]

theorem nullIfEmpty_eq_none {value : String} : nullIfEmpty value = none ↔ value = "" := by
  rw [nullIfEmpty]
  split
  · next h => exact iff_of_true rfl h
  · next h => exact iff_of_false (Option.some_ne_none _) h

theorem nullIfEmpty_of_ne {value : String} (h : value ≠ "") : nullIfEmpty value = some value :=
  if_neg h

theorem asStr_ne_empty (id : SourceEventId) : id.asStr ≠ "" := by
  intro h
  have hblank := id.not_blank
  rw [h] at hblank
  exact absurd hblank (by decide)

/-! ## Aliases -/

theorem formerNames_snoc_same (h : events.getLast?.map Observed.displayName = some event.displayName) :
    formerNames (events ++ [event]) = formerNames events := by
  rw [formerNames, runHeads_snoc, getLast?_runHeads.1, if_pos h, formerNames]

/-- A change of the name gives up the name of the last run. -/
theorem formerNames_snoc_change {last : Observed}
    (hhead : (lastRun Observed.displayName events).head? = some last)
    (h : events.getLast?.map Observed.displayName ≠ some event.displayName) :
    formerNames (events ++ [event]) =
      if last.displayName = "" then formerNames events else formerNames events ++ [last] := by
  have hlast : (runHeads Observed.displayName events).getLast? = some last :=
    getLast?_runHeads.2.trans hhead
  rw [formerNames, runHeads_snoc, getLast?_runHeads.1, if_neg h, List.dropLast_concat, formerNames]
  obtain ⟨heads, hheads⟩ := List.getLast?_eq_some_iff.mp hlast
  rw [hheads, List.filter_append, List.dropLast_concat, List.filter_singleton]
  by_cases hemp : last.displayName = ""
  · rw [if_pos hemp, decide_eq_false (not_not.mpr hemp), cond_false, List.append_nil]
  · rw [if_neg hemp, decide_eq_true hemp, cond_true]

theorem map_firsts_take_concat (entry : AliasEntry) {aliases : List AliasEntry} {names : List String}
    (h : aliases.map AliasEntry.«alias» = (firsts names).take 10) :
    ((if entry.«alias» ∈ aliases.map AliasEntry.«alias» then aliases else aliases ++ [entry]).take 10).map
      AliasEntry.«alias» = (firsts (names ++ [entry.«alias»])).take 10 := by
  rw [take_firsts_concat, h]
  split
  · rw [List.map_take, h, List.take_take, Nat.min_self]
  · rw [List.map_take, List.map_append, h, List.map_singleton]

/-- The aliases of the next profile are those of the names up to the one that is given up. -/
theorem Profiled.nextAliases {row : ProfileRow} (h : Profiled events row)
    (hshort : ∀ earlier ∈ events, takeChars earlier.displayName = earlier.displayName)
    (hchg : row.displayName ≠ event.displayName) :
    (row.nextAliases event.sourceEventId).map AliasEntry.«alias» =
        (firsts ((formerNames (events ++ [event])).map Observed.displayName)).take 10 ∧
      ∀ entry ∈ row.nextAliases event.sourceEventId, ∃ former ∈ formerNames (events ++ [event]),
        entry = ⟨former.displayName, former.sourceEventId⟩ := by
  have hne : events ≠ [] := by
    rintro rfl
    cases h.displayName
  have hrunNe : lastRun Observed.displayName events ≠ [] := lastRun_ne_nil hne
  obtain ⟨head, rest, hrun⟩ := List.exists_cons_of_ne_nil hrunNe
  have hmem : head ∈ lastRun Observed.displayName events := hrun ▸ List.mem_cons_self
  -- the head of the run showed the name of the row, and established it
  have hhead : (lastRun Observed.displayName events).head? = some head := by rw [hrun]; rfl
  have hname : head.displayName = row.displayName :=
    Option.some.inj ((key_of_mem_lastRun hmem).symm.trans h.displayName)
  have hest : row.establishedByEventId = some head.sourceEventId := by
    rw [h.establishedByEventId, hhead]
    rfl
  have htake : takeChars row.displayName = row.displayName := by
    rw [← hname]
    exact hshort head (lastRun_suffix.subset hmem)
  have hoth : events.getLast?.map Observed.displayName ≠ some event.displayName := by
    rw [h.displayName]
    exact fun heq => hchg (Option.some.inj heq)
  have hfull : row.aliases.take 10 = row.aliases := by
    have hlen := congrArg List.length h.aliases
    rw [List.length_map, List.length_take] at hlen
    exact List.take_of_length_le (by omega)
  rw [formerNames_snoc_change hhead hoth, hname, ProfileRow.nextAliases, hest, htake,
    Option.getD_some]
  by_cases hemp : row.displayName = ""
  · rw [if_neg fun hboth => hboth.1 hemp, if_pos hemp, hfull]
    exact ⟨h.aliases, h.established⟩
  · rw [if_neg hemp]
    have hin : (∀ entry ∈ row.aliases, entry.«alias» ≠ row.displayName) ↔
        row.displayName ∉ row.aliases.map AliasEntry.«alias» := by
      rw [List.mem_map]
      constructor
      · rintro hall ⟨entry, hent, heq⟩
        exact hall entry hent heq
      · intro hnot entry hent heq
        exact hnot ⟨entry, hent, heq⟩
    simp only [ne_eq, hemp, not_false_eq_true, true_and] at hin ⊢
    simp only [hin, ite_not]
    constructor
    · rw [List.map_append, List.map_singleton, hname]
      exact map_firsts_take_concat ⟨row.displayName, head.sourceEventId⟩ h.aliases
    · intro entry hent
      have hold : ∀ entry ∈ row.aliases, ∃ former ∈ formerNames events ++ [head],
          entry = ⟨former.displayName, former.sourceEventId⟩ := fun entry hent =>
        (h.established entry hent).imp fun former hformer =>
          ⟨List.mem_append_left _ hformer.1, hformer.2⟩
      have hent := List.mem_of_mem_take hent
      split at hent
      · exact hold entry hent
      · rcases List.mem_append.mp hent with hent | hent
        · exact hold entry hent
        · rw [List.mem_singleton.mp hent, ← hname]
          exact ⟨head, List.mem_append_right _ (List.mem_singleton_self _), rfl⟩

/-! ## The profile -/

variable {profile : ObservedSenderProfile} {kind : ConversationKind}

/-- The rows after a message that shows its sender. -/
theorem kept_upsertParticipantProfile (h : Kept Profiled events state.profile)
    (hshort : ∀ earlier ∈ events, takeChars earlier.displayName = earlier.displayName)
    (hname : takeChars profile.nickname = event.displayName)
    (hnew : event.sourceEventId ∉ events.map Observed.sourceEventId) :
    Kept Profiled (events ++ [event])
      (upsertParticipantProfile profile event.sourceEventId state).profile := by
  have hlast : (events ++ [event]).getLast?.map Observed.displayName = some event.displayName := by
    rw [List.getLast?_concat]
    rfl
  right
  rw [upsertParticipantProfile, hname]
  rcases h with ⟨hnone, rfl⟩ | ⟨row, hsome, hrow⟩
  · rw [hnone]
    refine ⟨_, rfl, ⟨hlast, ?_, rfl, rfl, fun _ hent => by cases hent⟩⟩
    rw [lastRun_snoc]
    rfl
  · have hsrcs : appendSource row.sourceEventIds event.sourceEventId =
        ((events ++ [event]).map Observed.sourceEventId).rtake 10 := by
      rw [hrow.sourceEventIds, appendSource_rtake hnew, List.map_append, List.map_singleton]
    rw [hsome]
    dsimp only
    split
    · next hsame =>
      have hkey : events.getLast?.map Observed.displayName = some event.displayName := by
        rw [hrow.displayName, hsame]
      refine ⟨_, rfl, ⟨hsame ▸ hlast, ?_, hsrcs, ?_, ?_⟩⟩
      · have hrun : lastRun Observed.displayName events ≠ [] := lastRun_ne_nil fun hnil => by
          rw [hnil] at hkey
          cases hkey
        rw [lastRun_snoc, if_pos hkey, List.head?_append_of_ne_nil _ hrun]
        exact hrow.establishedByEventId
      · rw [formerNames_snoc_same hkey]
        exact hrow.aliases
      · rw [formerNames_snoc_same hkey]
        exact hrow.established
    · next hchg =>
      have hkey : events.getLast?.map Observed.displayName ≠ some event.displayName := by
        rw [hrow.displayName]
        exact fun heq => hchg (Option.some.inj heq)
      obtain ⟨haliases, hest⟩ := hrow.nextAliases hshort hchg
      refine ⟨_, rfl, ⟨hlast, ?_, hsrcs, haliases, hest⟩⟩
      rw [lastRun_snoc, if_neg hkey]
      rfl

/-! ## The observation -/

/-- A row has the card and the role of an event, unless the card is empty, when the last event
before it had. -/
theorem Positioned.same_iff {row : ObservationRow} (h : Positioned events row) :
    (row.groupCard = some event.groupCard ∧ row.groupRole = event.groupRole.asStr) ↔
      event.groupCard ≠ "" ∧ events.getLast?.map Observed.membership = some event.membership := by
  obtain ⟨last, hlast, hvl⟩ := Option.map_eq_some_iff.mp h.value
  obtain ⟨hcard, hrole⟩ := Prod.mk.inj hvl
  rw [hlast, Option.map_some, Option.some_inj, Observed.membership, Observed.membership,
    Prod.mk.injEq, ← hcard, ← hrole, GroupRole.asStr_injective.eq_iff, ← and_assoc]
  refine and_congr_left fun _ => ?_
  rw [nullIfEmpty]
  split
  · next hemp =>
    rw [hemp]
    exact iff_of_false (fun h => by cases h) fun h => h.1 h.2.symm
  · next hpres =>
    rw [Option.some_inj]
    exact ⟨fun heq => ⟨heq ▸ hpres, heq⟩, And.right⟩

theorem Positioned.established {row : ObservationRow} (h : Positioned events row)
    (hid : event.sourceEventId ≠ "") (hids : ∀ earlier ∈ events, earlier.sourceEventId ≠ "") :
    nullIfEmpty (if row.groupCard ≠ some event.groupCard ∨ row.groupRole ≠ event.groupRole.asStr then
        event.sourceEventId else row.establishedByEventId.getD "") =
      if nullIfEmpty event.groupCard = none then some event.sourceEventId
      else (lastRun Observed.membership (events ++ [event])).head?.map Observed.sourceEventId := by
  simp only [ne_eq, ← not_and_or, ite_not, nullIfEmpty_eq_none, lastRun_snoc]
  by_cases hsame : row.groupCard = some event.groupCard ∧ row.groupRole = event.groupRole.asStr
  · obtain ⟨hpres, hkey⟩ := h.same_iff.mp hsame
    have hne : lastRun Observed.membership events ≠ [] := lastRun_ne_nil fun hnil => by
      rw [hnil] at hkey
      cases hkey
    obtain ⟨head, rest, hrun⟩ := List.exists_cons_of_ne_nil hne
    have hmem : head ∈ lastRun Observed.membership events := hrun ▸ List.mem_cons_self
    rw [if_pos hsame, if_neg hpres, if_pos hkey, h.establishedByEventId, hsame.1,
      if_neg (Option.some_ne_none _), hrun]
    exact nullIfEmpty_of_ne (hids head (lastRun_suffix.subset hmem))
  · rw [if_neg hsame, nullIfEmpty_of_ne hid]
    split
    · rfl
    · next hpres =>
      rw [if_neg fun hkey => hsame (h.same_iff.mpr ⟨hpres, hkey⟩)]
      rfl

theorem kept_upsertParticipantConversationObservation {profile : ObservedSenderProfile}
    (h : Kept Positioned events state.observation)
    (hcard : takeChars (profile.groupCard.getD "") = event.groupCard)
    (hrole : GroupRole.parseProtocol profile.groupRole = event.groupRole)
    (hid : event.sourceEventId ≠ "") (hids : ∀ earlier ∈ events, earlier.sourceEventId ≠ "")
    (hnew : event.sourceEventId ∉ events.map Observed.sourceEventId) :
    Kept Positioned (events ++ [event])
      (upsertParticipantConversationObservation profile event.sourceEventId state).observation := by
  right
  rw [upsertParticipantConversationObservation, hcard, hrole]
  rcases h with ⟨hnone, rfl⟩ | ⟨row, hsome, hrow⟩
  · rw [hnone]
    refine ⟨_, rfl, ⟨rfl, ?_, rfl⟩⟩
    rw [lastRun_snoc]
    dsimp only
    split
    · rfl
    · rfl
  · rw [hsome]
    refine ⟨_, rfl, ⟨by rw [List.getLast?_concat]; rfl, ?_, ?_⟩⟩
    · rw [List.getLast?_concat]
      exact hrow.established hid hids
    · dsimp only
      rw [hrow.sourceEventIds, appendSource_rtake hnew, List.map_append, List.map_singleton]

/-! ## One message -/

theorem observed_spec (hval : delivery.message.validate.isOk = true)
    (h : delivery.observed = some event) : ∃ profile, delivery.message.senderProfile = some profile ∧
      delivery.observationAllowed = true ∧ delivery.proposedEventId.asStr = event.sourceEventId ∧
      profile.nickname = event.displayName ∧ takeChars profile.nickname = event.displayName ∧
      takeChars (profile.groupCard.getD "") = event.groupCard ∧
      GroupRole.parseProtocol profile.groupRole = event.groupRole := by
  obtain ⟨profile, hprof, hev⟩ := Option.bind_eq_some_iff.mp h
  split at hev
  case isFalse => cases hev
  case isTrue hallow =>
    have hok : delivery.message.validate = .ok () := by
      cases hmsg : delivery.message.validate with
      | ok => rfl
      | error e => rw [hmsg] at hval; cases hval
    have hboun := (NapCat.validate_eq_ok.mp hok).2.2.2.2.2
    rw [hprof, Option.elim_some, ObservedSenderProfile.validate] at hboun
    split at hboun
    case isTrue => cases hboun
    case isFalse hnick =>
      split at hboun
      case isTrue => cases hboun
      case isFalse hcard =>
        cases hev
        have hshort : (profile.groupCard.getD "").length ≤ 200 := by
          cases hgroupCard : profile.groupCard with
          | none => exact Nat.zero_le _
          | some card =>
            rw [hgroupCard, Option.any_some, decide_eq_true_eq] at hcard
            exact Nat.not_lt.mp hcard
        exact ⟨profile, hprof, hallow, rfl, rfl, takeChars_of_le (Nat.not_lt.mp hnick),
          takeChars_of_le hshort, rfl⟩

theorem observe_sourceEvents : (observe delivery state).sourceEvents = state.sourceEvents := by
  have hprof : ∀ profile id (state : Participant),
      (upsertParticipantProfile profile id state).sourceEvents = state.sourceEvents := by
    intro profile id state
    rw [upsertParticipantProfile]
    split
    · rfl
    · dsimp only
      split
      · rfl
      · rfl
  have hobs : ∀ profile id (state : Participant),
      (upsertParticipantConversationObservation profile id state).sourceEvents =
        state.sourceEvents := by
    intro profile id state
    rw [upsertParticipantConversationObservation]
    split
    · rfl
    · rfl
  rw [observe]
  split
  · rfl
  · split
    · dsimp only
      split
      · rw [hobs, hprof]
      · exact hprof _ _ _
    · rfl

theorem upsertParticipantProfile_observation :
    (upsertParticipantProfile profile id state).observation = state.observation := by
  rw [upsertParticipantProfile]
  split
  · rfl
  · dsimp only
    split
    · rfl
    · rfl

theorem upsertParticipantConversationObservation_profile :
    (upsertParticipantConversationObservation profile id state).profile = state.profile := by
  rw [upsertParticipantConversationObservation]
  split
  · rfl
  · rfl

/-- A message that shows nothing leaves the rows alone. -/
theorem observe_of_none (h : delivery.observed = none) : observe delivery state = state := by
  rw [observe]
  split
  · rfl
  · next profile hprof =>
    rw [Delivery.observed, hprof, Option.bind_some] at h
    split at h
    · cases h
    · next hdenied => rw [if_neg hdenied]

theorem Stored.accept (h : Stored delivery.message.conversation.kind messages state)
    (hval : ∀ earlier ∈ messages ++ [delivery], earlier.message.validate.isOk = true)
    (hids : ((messages ++ [delivery]).map Delivery.proposedEventId).Nodup) :
    Stored delivery.message.conversation.kind (messages ++ [delivery])
      (observe delivery { state with
        sourceEvents :=
          state.sourceEvents ++ [⟨delivery.platformEventId, delivery.proposedEventId⟩] }) := by
  have hevs : (observe delivery { state with
      sourceEvents :=
        state.sourceEvents ++ [⟨delivery.platformEventId, delivery.proposedEventId⟩] }).sourceEvents =
      (messages ++ [delivery]).map fun delivery =>
        ⟨delivery.platformEventId, delivery.proposedEventId⟩ := by
    rw [observe_sourceEvents, h.sourceEvents, List.map_append]
    rfl
  cases hshown : delivery.observed with
  | none =>
    refine ⟨hevs, ?_, ?_⟩
    · rw [observe_of_none hshown, List.filterMap_append, List.filterMap_cons_none hshown,
        List.filterMap_nil, List.append_nil]
      exact h.profile
    · rw [observe_of_none hshown, List.filterMap_append, List.filterMap_cons_none hshown,
        List.filterMap_nil, List.append_nil]
      exact h.observation
  | some event =>
    obtain ⟨profile, hprof, hallow, hid, hnick, hname, hcard, hrole⟩ :=
      observed_spec (hval _ (List.mem_append_right _ (List.mem_singleton_self _))) hshown
    -- what the events before it showed
    have hear : ∀ earlier ∈ messages.filterMap Delivery.observed,
        takeChars earlier.displayName = earlier.displayName ∧ earlier.sourceEventId ≠ "" ∧
          earlier.sourceEventId ≠ event.sourceEventId := by
      intro earlier hmem
      obtain ⟨message, hmsg, hshown'⟩ := List.mem_filterMap.mp hmem
      obtain ⟨profile', -, -, hid', hnick', hname', -⟩ :=
        observed_spec (hval _ (List.mem_append_left _ hmsg)) hshown'
      refine ⟨hnick' ▸ hname'.trans hnick'.symm, hid' ▸ asStr_ne_empty _, ?_⟩
      rw [← hid, ← hid']
      intro heq
      rw [List.map_append, List.nodup_append] at hids
      exact hids.2.2 _ (List.mem_map_of_mem hmsg) _ (List.mem_singleton_self _)
        (SourceEventId.asStr_injective heq)
    have hnew : event.sourceEventId ∉
        (messages.filterMap Delivery.observed).map Observed.sourceEventId := by
      intro hmem
      obtain ⟨earlier, hmem, heq⟩ := List.mem_map.mp hmem
      exact (hear earlier hmem).2.2 heq
    refine ⟨hevs, ?_, ?_⟩
    · rw [List.filterMap_append, List.filterMap_cons_some hshown, List.filterMap_nil]
      have hshort := fun earlier hmem => (hear earlier hmem).1
      rw [observe, hprof]
      dsimp only
      rw [if_pos hallow, hid]
      split
      · rw [upsertParticipantConversationObservation_profile]
        exact kept_upsertParticipantProfile h.profile hshort hname hnew
      · exact kept_upsertParticipantProfile h.profile hshort hname hnew
    · intro hgrp
      rw [List.filterMap_append, List.filterMap_cons_some hshown, List.filterMap_nil]
      rw [observe, hprof]
      dsimp only
      rw [if_pos hallow, hid, if_pos hgrp]
      refine kept_upsertParticipantConversationObservation ?_ hcard hrole (hid ▸ asStr_ne_empty _)
        (fun e he => (hear e he).2.1) hnew
      rw [upsertParticipantProfile_observation]
      exact h.observation hgrp

/-! ## A sequence of messages -/

theorem accepted_snoc : accepted (deliveries ++ [delivery]) =
    if delivery.message.validate.isOk ∧
        ∀ earlier ∈ accepted deliveries, earlier.platformEventId ≠ delivery.platformEventId then
      accepted deliveries ++ [delivery]
    else accepted deliveries := by
  rw [accepted, List.filter_append, insertIgnore, List.foldl_append]
  by_cases hval : delivery.message.validate.isOk = true
  · rw [List.filter_singleton, hval, cond_true, List.foldl_cons, List.foldl_nil]
    have hany : ((accepted deliveries).any fun earlier =>
          decide (earlier.platformEventId = delivery.platformEventId)) = true ↔
        ¬ ∀ earlier ∈ accepted deliveries,
          earlier.platformEventId ≠ delivery.platformEventId := by
      simp only [List.any_eq_true, decide_eq_true_eq, ne_eq, not_forall, not_not, exists_prop]
    show (if ((accepted deliveries).any fun earlier =>
        decide (earlier.platformEventId = delivery.platformEventId)) = true then accepted deliveries
      else accepted deliveries ++ [delivery]) = _
    simp only [hany, ite_not, true_and]
  · rw [List.filter_singleton, Bool.eq_false_iff.mpr hval, cond_false, List.foldl_nil,
      if_neg fun h => absurd h.1 Bool.false_ne_true]
    rfl

theorem accepted_spec : (accepted deliveries).Sublist deliveries ∧
    ∀ message ∈ accepted deliveries, message.message.validate.isOk = true := by
  induction deliveries using List.reverseRecOn with
  | nil => exact ⟨List.Sublist.refl _, fun _ h => by cases h⟩
  | append_singleton deliveries delivery ih =>
    rw [accepted_snoc]
    split
    · next hacpt =>
      refine ⟨ih.1.append (List.Sublist.refl _), ?_⟩
      intro message hmem
      rcases List.mem_append.mp hmem with hmem | hmem
      · exact ih.2 message hmem
      · rw [List.mem_singleton.mp hmem]
        exact hacpt.1
    · exact ⟨ih.1.trans (List.sublist_append_left _ _), ih.2⟩

/-- A message under a known id changes nothing, and one that is refused does not either. -/
theorem after_of_known (h : Stored kind messages state)
    (hkn : delivery.message.validate.isOk = true →
      ∃ earlier ∈ messages, earlier.platformEventId = delivery.platformEventId) :
    after state delivery = state := by
  rw [after, insertMessageIfAbsent]
  cases hvalid : delivery.message.validate with
  | error e => rfl
  | ok u =>
    obtain ⟨earlier, hear, hsame⟩ := hkn (by rw [hvalid]; rfl)
    show processMessage delivery state = state
    rw [processMessage]
    split
    · rfl
    · next hnone =>
      rw [List.find?_eq_none, h.sourceEvents] at hnone
      exact absurd (decide_eq_true hsame) (hnone _ (List.mem_map_of_mem hear))

theorem after_of_new (h : Stored kind messages state) (hval : delivery.message.validate.isOk = true)
    (hnew : ∀ earlier ∈ messages, earlier.platformEventId ≠ delivery.platformEventId) :
    after state delivery = observe delivery { state with
      sourceEvents :=
        state.sourceEvents ++ [⟨delivery.platformEventId, delivery.proposedEventId⟩] } := by
  rw [after, insertMessageIfAbsent]
  cases hvalid : delivery.message.validate with
  | error e => rw [hvalid] at hval; cases hval
  | ok u =>
    show processMessage delivery state = _
    have hnone : (state.sourceEvents.find? fun row =>
        decide (row.platformEventId = delivery.platformEventId)) = none := by
      rw [List.find?_eq_none, h.sourceEvents]
      intro row hrow
      obtain ⟨earlier, hear, rfl⟩ := List.mem_map.mp hrow
      rw [decide_eq_true_eq]
      exact hnew earlier hear
    rw [processMessage, hnone]

theorem run_stored (hfrom : FromOne account conversation actor deliveries)
    (hids : (deliveries.map Delivery.proposedEventId).Nodup) :
    Stored conversation.kind (accepted deliveries) (run deliveries) := by
  induction deliveries using List.reverseRecOn with
  | nil => exact ⟨rfl, .inl ⟨rfl, rfl⟩, fun _ => .inl ⟨rfl, rfl⟩⟩
  | append_singleton deliveries delivery ih =>
    have ih := ih (fun earlier hmem => hfrom earlier (List.mem_append_left _ hmem))
      (hids.sublist ((List.sublist_append_left _ _).map _))
    have hlast := (hfrom delivery (List.mem_append_right _ (List.mem_singleton_self _))).2.1
    have hspec : (accepted (deliveries ++ [delivery])).Sublist (deliveries ++ [delivery]) ∧
        ∀ message ∈ accepted (deliveries ++ [delivery]), message.message.validate.isOk = true :=
      accepted_spec
    rw [run, List.foldl_append, List.foldl_cons, List.foldl_nil]
    change Stored _ _ (after (run deliveries) delivery)
    rw [accepted_snoc] at hspec ⊢
    split
    · next hnew =>
      rw [if_pos hnew] at hspec
      rw [after_of_new ih hnew.1 hnew.2, ← hlast]
      rw [← hlast] at ih
      exact ih.accept hspec.2 (hids.sublist (hspec.1.map _))
    · next hold =>
      rw [after_of_known ih fun hval => ?_]
      · exact ih
      · by_contra hnone
        exact hold ⟨hval, fun earlier hmem heq => hnone ⟨earlier, hmem, heq⟩⟩

end ServerRS.Participants

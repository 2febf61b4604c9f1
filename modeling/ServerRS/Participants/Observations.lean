import ServerRS.Lib.Runs
import ServerRS.NapCat.Segments

/-!
# Participant observations

A message shows its sender under a nickname and, in a group, with a card and a role. The transaction
that stores the message keeps what it shows: a profile of the participant in the account, whose former
names become aliases, and an observation of the participant in the conversation. Each value is kept
with the event that established it and the latest events that showed it.

The state is the part of the store about one participant in one conversation.
-/

namespace ServerRS.Participants

def maxProfileSourceEvents : ℕ := 10

/-! ## Group roles -/

inductive GroupRole where
  | owner
  | admin
  | member
  | unknown
deriving DecidableEq

def GroupRole.asStr : GroupRole → String
  | .owner => "owner"
  | .admin => "admin"
  | .member => "member"
  | .unknown => "unknown"

def GroupRole.parseProtocol (value : Option String) : GroupRole :=
  match value.map trim with
  | some "owner" => .owner
  | some "admin" => .admin
  | some "member" => .member
  | _ => .unknown

theorem GroupRole.asStr_injective : Function.Injective GroupRole.asStr := by
  intro a b h
  revert h
  cases a <;> cases b <;> decide

/-! ## Rows -/

/-- A former display name, with the event that established it. -/
structure AliasEntry where
  «alias» : String
  sourceEventId : String
deriving DecidableEq

structure ProfileRow where
  displayName : String
  aliases : List AliasEntry
  sourceEventIds : List String
  establishedByEventId : Option String
deriving DecidableEq

structure ObservationRow where
  groupCard : Option String
  groupRole : String
  establishedByEventId : Option String
  sourceEventIds : List String
deriving DecidableEq

/-- A source event of the participant, under the id that the platform gave its message. -/
structure SourceEventRow where
  platformEventId : String
  sourceEventId : SourceEventId
deriving DecidableEq

/-- The rows of one participant in one conversation. The key of the profiles leaves one current row;
the rows before it stay for the audit. -/
structure Participant where
  sourceEvents : List SourceEventRow
  profile : Option ProfileRow
  formerProfiles : List ProfileRow
  observation : Option ObservationRow
deriving DecidableEq

def Participant.empty : Participant := ⟨[], none, [], none⟩

/-- `NULLIF(value, '')`. -/
def nullIfEmpty (value : String) : Option String :=
  if value = "" then none else some value

/-- `chars().take(200).collect()`. -/
def takeChars (value : String) : String :=
  String.ofList (value.toList.take 200)

/-- `append_source`: the oldest source makes room for the new one. -/
def appendSource (ids : List String) (sourceEventId : String) : List String :=
  if sourceEventId ∈ ids then ids
  else (if maxProfileSourceEvents ≤ ids.length then ids.drop 1 else ids) ++ [sourceEventId]

/-! ## The profile -/

/-- The aliases of the profile that follows `current`. -/
def ProfileRow.nextAliases (current : ProfileRow) (sourceEventId : String) : List AliasEntry :=
  (if current.displayName ≠ "" ∧ ∀ entry ∈ current.aliases, entry.«alias» ≠ current.displayName then
    current.aliases ++
      [⟨takeChars current.displayName, current.establishedByEventId.getD sourceEventId⟩]
  else current.aliases).take 10

/-- `upsert_participant_profile_in_txn`. -/
def upsertParticipantProfile (profile : ObservedSenderProfile) (sourceEventId : String)
    (state : Participant) : Participant :=
  let displayName := takeChars profile.nickname
  match state.profile with
  | none => { state with
      profile := some ⟨displayName, [], appendSource [] sourceEventId, some sourceEventId⟩ }
  | some current =>
    let sources := appendSource current.sourceEventIds sourceEventId
    if current.displayName = displayName then
      { state with profile := some { current with sourceEventIds := sources } }
    else { state with
      formerProfiles := state.formerProfiles ++ [current]
      profile := some
        ⟨displayName, current.nextAliases sourceEventId, sources, some sourceEventId⟩ }

/-! ## The observation in a group -/

/-- `upsert_participant_conversation_observation_in_txn`. -/
def upsertParticipantConversationObservation (profile : ObservedSenderProfile)
    (sourceEventId : String) (state : Participant) : Participant :=
  let groupCard := takeChars (profile.groupCard.getD "")
  let groupRole := (GroupRole.parseProtocol profile.groupRole).asStr
  match state.observation with
  | none => { state with
      observation :=
        some ⟨nullIfEmpty groupCard, groupRole, some sourceEventId, [sourceEventId]⟩ }
  | some current =>
    -- a card that was stored as NULL differs from every card, the empty one too
    let established :=
      if current.groupCard ≠ some groupCard ∨ current.groupRole ≠ groupRole then sourceEventId
      else current.establishedByEventId.getD ""
    { state with
      observation := some
        ⟨nullIfEmpty groupCard, groupRole, nullIfEmpty established,
          appendSource current.sourceEventIds sourceEventId⟩ }

/-! ## Messages -/

/-- A message on its way to the store, with the id that is proposed for its source event and the
answer of `participant_observation_allowed`. -/
structure Delivery where
  message : InboundMessageEnvelope
  proposedEventId : SourceEventId
  observationAllowed : Bool
deriving DecidableEq

def Delivery.platformEventId (delivery : Delivery) : String := delivery.message.source.messageId

/-- What an accepted message writes about its sender. -/
def observe (delivery : Delivery) (state : Participant) : Participant :=
  match delivery.message.senderProfile with
  | none => state
  | some profile =>
    if delivery.observationAllowed then
      let sourceEventId := delivery.proposedEventId.asStr
      let state := upsertParticipantProfile profile sourceEventId state
      if delivery.message.conversation.kind = .group then
        upsertParticipantConversationObservation profile sourceEventId state
      else state
    else state

/-- `process_message_in_transaction`: a message with a source event is a duplicate. -/
def processMessage (delivery : Delivery) (state : Participant) : Participant :=
  match state.sourceEvents.find? fun row => decide (row.platformEventId = delivery.platformEventId) with
  | some _ => state
  | none => observe delivery { state with
      sourceEvents := state.sourceEvents ++ [⟨delivery.platformEventId, delivery.proposedEventId⟩] }

def insertMessageIfAbsent (delivery : Delivery) (state : Participant) :
    Except InboundIdentityError Participant := do
  delivery.message.validate
  pure (processMessage delivery state)

/-- The state after a message; one that is refused leaves the state as it is. -/
def after (state : Participant) (delivery : Delivery) : Participant :=
  match insertMessageIfAbsent delivery state with
  | .ok next => next
  | .error _ => state

def run (deliveries : List Delivery) : Participant := deliveries.foldl after .empty

end ServerRS.Participants

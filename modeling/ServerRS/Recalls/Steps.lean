import ServerRS.Lib.Except
import ServerRS.Recalls.Invariant

/-!
# One transaction

Each of the transactions keeps `Sound`. Those that write artifacts look for the tombstone of
their message; a derivation looks at the flag that was read with the claim.
-/

namespace ServerRS.Recalls

open Lib

variable {Known : RecallCorrelationKey → Prop} {db after : RecallDb}

/-! ## Messages -/

def messageCorrelation (message : InboundMessageEnvelope) : RecallCorrelationKey where
  account := message.source.accountRef
  channel := message.source.channel
  conversation := message.conversation
  platformMessageId := message.source.messageId

/-- Both sides put the same key together. -/
theorem messageKey_eq (message : InboundMessageEnvelope) :
    messageKey message = keyString (messageCorrelation message) := rfl

variable {message : InboundMessageEnvelope} {id : SourceEventId} {row : SourceEventRow} {now : Int}
  {status : TombstoneStatus} {envelope : ArtifactEnvelope} {lease : String}
  {isLocked : SourceEventId → Bool} {claimed : Option (DerivationRow × String)}
  {set : DerivationJobRow → DerivationJobRow} {newV5 : String → String}

theorem isDelivery_iff {account : SourceAccountRef} {id : String} :
    row.isDelivery account id = true ↔ row.account = account ∧ row.platformEventId = id := by
  simp [SourceEventRow.isDelivery]

theorem arrives_duplicate (h : Sound Known db) {stored : SourceEventRow} (hstd : stored ∈ db.events)
    (hdel : stored.isDelivery message.source.accountRef message.source.messageId = true)
    (hevs : after.events = db.events) (hntcs : after.recallEvents = db.recallEvents)
    (hrows : after.tombstones = db.tombstones) (hart : after.artifacts = db.artifacts) :
    Arrives db after (messageCorrelation message) stored where
  ids := hevs ▸ h.ids
  deliveries := hevs ▸ h.deliveries
  kept _ hrow := hevs ▸ hrow
  new _ hrow := .inl (hevs ▸ hrow)
  stored_mem := hevs ▸ hstd
  account := (isDelivery_iff.mp hdel).1
  messageId := (isDelivery_iff.mp hdel).2
  conversation hnew := absurd hstd hnew
  notices := hntcs
  tombstones := hrows
  artifacts := hart

theorem nodup_ids_concat (h : Sound Known db)
    (hid : ∀ other ∈ db.events, other.sourceEventId ≠ row.sourceEventId) :
    ((db.events ++ [row]).map SourceEventRow.sourceEventId).Nodup :=
  nodup_map_concat h.ids hid

theorem nodup_deliveries_concat (h : Sound Known db)
    (hnew : ∀ other ∈ db.events, other.isDelivery row.account row.platformEventId = false) :
    ((db.events ++ [row]).map fun row => (row.account, row.platformEventId)).Nodup := by
  refine nodup_map_concat h.deliveries fun other hoth heq => ?_
  obtain ⟨hacc, hid⟩ := Prod.mk.inj heq
  exact Bool.false_ne_true ((hnew other hoth).symm.trans (isDelivery_iff.mpr ⟨hacc, hid⟩))

theorem arrives_new (h : Sound Known db)
    (hid : ∀ other ∈ db.events, other.sourceEventId ≠ row.sourceEventId)
    (hnew : ∀ other ∈ db.events,
      other.isDelivery message.source.accountRef message.source.messageId = false)
    (hacc : row.account = message.source.accountRef)
    (hconv : row.conversation = message.conversation)
    (hmessageId : row.platformEventId = message.source.messageId)
    (hevs : after.events = db.events ++ [row]) (hntcs : after.recallEvents = db.recallEvents)
    (hrows : after.tombstones = db.tombstones) (hart : after.artifacts = db.artifacts) :
    Arrives db after (messageCorrelation message) row where
  ids := hevs ▸ nodup_ids_concat h hid
  deliveries := hevs ▸ nodup_deliveries_concat h (by rw [hacc, hmessageId]; exact hnew)
  kept other hoth := hevs ▸ List.mem_append_left _ hoth
  new other hoth := by
    rw [hevs, List.mem_append, List.mem_singleton] at hoth
    exact hoth
  stored_mem := hevs ▸ List.mem_append_right _ (List.mem_singleton_self row)
  account := hacc
  messageId := hmessageId
  conversation _ := hconv
  notices := hntcs
  tombstones := hrows
  artifacts := hart

theorem Sound.processMessage (h : Sound Known db) (hdist : KeysDistinct Known)
    {arrival : InboundMessageEnvelope × SourceEventId} (hkn : Known (messageCorrelation arrival.1))
    (hok : processMessageInTransaction now db arrival = .ok after) : Sound Known after := by
  obtain ⟨message, proposed⟩ := arrival
  simp only [processMessageInTransaction] at hok
  split at hok
  · next stored hfind =>
    cases hok
    have harr : Arrives db (ensureConversation message.source.accountRef message.conversation
        (ensureAccount message.source.accountRef db)) (messageCorrelation message) stored :=
      arrives_duplicate h (List.mem_of_find?_eq_some hfind) (List.find?_some hfind) rfl rfl rfl rfl
    rw [applyPendingTombstoneInTxn, messageKey_eq]
    exact h.arrival harr hdist hkn
  · next hfind =>
    split at hok
    · cases hok
    next hfr =>
    cases hok
    have hid : ∀ other ∈ db.events, other.sourceEventId ≠ proposed := fun other hoth heq =>
      hfr (List.any_eq_true.mpr ⟨other, hoth, decide_eq_true heq⟩)
    have hnew : ∀ other ∈ db.events,
        other.isDelivery message.source.accountRef message.source.messageId = false :=
      fun other hoth => Bool.eq_false_iff.mpr (List.find?_eq_none.mp hfind other hoth)
    have harr : Arrives db (insertRows message proposed now
        (ensureConversation message.source.accountRef message.conversation
          (ensureAccount message.source.accountRef db))) (messageCorrelation message)
        (messageRow message proposed) :=
      arrives_new h hid hnew rfl rfl rfl rfl rfl rfl rfl
    rw [applyPendingTombstoneInTxn, messageKey_eq]
    exact h.arrival harr hdist hkn

theorem Sound.insertMessages (h : Sound Known db) (hdist : KeysDistinct Known)
    {arrivals : List (InboundMessageEnvelope × SourceEventId)}
    (hkn : ∀ arrival ∈ arrivals, Known (messageCorrelation arrival.1))
    (hok : insertMessagesIfAbsent arrivals now db = .ok after) : Sound Known after := by
  rw [insertMessagesIfAbsent] at hok
  split at hok
  · cases hok
  · exact Except.foldlM_keeps (P := Sound Known)
      (fun arrival harrival _ _ hsnd hstep =>
        hsnd.processMessage hdist (hkn arrival harrival) hstep) h hok

/-! ## Recalls -/

theorem names_iff {event : RecallEvent} : event.names row = true ↔ event.row.names row := by
  simp [RecallEvent.names, RecallEventRow.names, RecallEvent.row, and_assoc]

theorem isRecordedKey_iff {event : RecallEvent} {notice : RecallEventRow} :
    isRecordedKey event notice = true ↔
      notice.account = event.account ∧ notice.correlationKey = keyString event.correlation := by
  simp [isRecordedKey]

theorem row_isAbout (event : RecallEvent) : event.row.isAbout event.correlation :=
  ⟨event.sameAccount.symm, rfl, rfl, rfl⟩

theorem tombstone_marks (event : RecallEvent) (source : Option SourceEventRow) :
    (event.tombstone source).marks event.row := ⟨rfl, rfl, rfl, rfl⟩

/-- The tables after a recall that was not recorded before. -/
structure Records (db after : RecallDb) (event : RecallEvent) (source : Option SourceEventRow) :
    Prop where
  events : after.events = db.events ++ [event.sourceRow]
  found : source = after.events.find? event.names
  notices : after.recallEvents = db.recallEvents ++ [event.row]
  tombstones : after.tombstones = db.tombstones ++ [event.tombstone source]
  artifacts : ∀ id, Leaks after.artifacts id →
    Leaks db.artifacts id ∧ ∀ row, source = some row → id ≠ row.sourceEventId

theorem Sound.no_tombstone (h : Sound Known db) {event : RecallEvent}
    (hnew : db.recallEvents.any (isRecordedKey event) = false) (source : Option SourceEventRow) :
    db.tombstones.any (event.tombstone source).sameCorrelation = false := by
  rw [Bool.eq_false_iff] at hnew ⊢
  intro hany
  obtain ⟨row, hrow, hsame⟩ := List.any_eq_true.mp hany
  obtain ⟨notice, hntc, hacc, -, -, hkey⟩ := h.recorded row hrow
  simp only [TombstoneRow.sameCorrelation, Bool.and_eq_true, decide_eq_true_eq] at hsame
  exact hnew (List.any_eq_true.mpr ⟨notice, hntc, isRecordedKey_iff.mpr
    ⟨hacc.symm.trans hsame.1.symm, hkey.symm.trans hsame.2.symm⟩⟩)

theorem Sound.no_notice (h : Sound Known db) {event : RecallEvent}
    (hnew : db.recallEvents.any (isRecordedKey event) = false)
    (hid : ∀ row ∈ db.events, row.sourceEventId ≠ event.recallEventId) :
    db.recallEvents.any event.row.conflicts = false := by
  rw [Bool.eq_false_iff] at hnew ⊢
  intro hany
  obtain ⟨notice, hntc, hconf⟩ := List.any_eq_true.mp hany
  simp only [RecallEventRow.conflicts, Bool.or_eq_true, Bool.and_eq_true, decide_eq_true_eq]
    at hconf
  rcases hconf with hsame | ⟨hacc, hkey⟩
  · obtain ⟨row, hrow, hrowId⟩ := h.noticed notice hntc
    exact hid row hrow (hrowId.trans hsame.symm)
  · exact hnew (List.any_eq_true.mpr ⟨notice, hntc, isRecordedKey_iff.mpr
      ⟨hacc.symm, hkey.symm⟩⟩)

theorem insertRecall_records (h : Sound Known db) {event : RecallEvent}
    (hnew : db.recallEvents.any (isRecordedKey event) = false)
    (hid : ∀ row ∈ db.events, row.sourceEventId ≠ event.recallEventId) :
    Records db (insertRecall event db) event
      ((db.events ++ [event.sourceRow]).find? event.names) where
  events := rfl
  found := rfl
  notices := insertIgnore_singleton (h.no_notice hnew hid)
  tombstones := by
    show upsertTombstone _ db.tombstones = _
    rw [upsertTombstone, h.no_tombstone hnew]
    rfl
  artifacts id hleaks := by
    simp only [insertRecall, ensureConversation] at hleaks
    split at hleaks
    · next row hsrc =>
      obtain ⟨hleaks, hoth⟩ := leaks_of_invalidate hleaks
      refine ⟨hleaks, fun other hoth' => ?_⟩
      rw [hsrc] at hoth'
      cases hoth'
      exact hoth
    · next hsrc =>
      refine ⟨hleaks, fun other hoth' => ?_⟩
      rw [hsrc] at hoth'
      cases hoth'

namespace Records

variable {event : RecallEvent} {source : Option SourceEventRow} {row : SourceEventRow}

section

variable (h : Records db after event source)
include h

theorem mem_events (hrow : row ∈ after.events) :
    row ∈ db.events ∨ row = event.sourceRow := by
  rw [h.events, List.mem_append, List.mem_singleton] at hrow
  exact hrow

/-- The recall itself is no message. -/
theorem message_mem (hrow : row ∈ after.events)
    (hmsg : row.eventType = .message) : row ∈ db.events := by
  rcases h.mem_events hrow with hrow | rfl
  · exact hrow
  · cases hmsg

theorem kept (hrow : row ∈ db.events) :
    row ∈ after.events := h.events ▸ List.mem_append_left _ hrow

theorem mem_tombstones {row : TombstoneRow}
    (hrow : row ∈ after.tombstones) : row ∈ db.tombstones ∨ row = event.tombstone source := by
  rw [h.tombstones, List.mem_append, List.mem_singleton] at hrow
  exact hrow

theorem mem_notices {notice : RecallEventRow}
    (hntc : notice ∈ after.recallEvents) : notice ∈ db.recallEvents ∨ notice = event.row := by
  rw [h.notices, List.mem_append, List.mem_singleton] at hntc
  exact hntc

/-- What the lookup of the message finds. -/
theorem source_spec :
    (∀ row, source = some row → row ∈ after.events ∧ event.row.names row) ∧
      (source = none → ∀ row ∈ after.events, ¬event.row.names row) := by
  constructor
  · intro row hrow
    rw [h.found] at hrow
    exact ⟨List.mem_of_find?_eq_some hrow, names_iff.mp (List.find?_some hrow)⟩
  · intro hnone row hrow hnames
    rw [h.found] at hnone
    exact List.find?_eq_none.mp hnone row hrow (names_iff.mpr hnames)

theorem landed (hsnd : Sound Known db) :
    ∀ row ∈ after.tombstones, row.status ≠ .pending → row.status = .applied ∧
      ∃ target ∈ after.events, row.sourceEventId = some target.sourceEventId ∧
        target.account = row.account ∧ target.platformEventId = row.platformMessageId := by
  intro row hrow hstat
  rcases h.mem_tombstones hrow with hrow | rfl
  · obtain ⟨happd, target, htgt, hlanded⟩ := hsnd.landed row hrow hstat
    exact ⟨happd, target, h.kept htgt, hlanded⟩
  · cases hsrc : source with
    | none =>
      rw [hsrc] at hstat
      exact absurd rfl hstat
    | some target =>
      obtain ⟨htgt, hacc, -, hid⟩ := h.source_spec.1 target hsrc
      exact ⟨rfl, target, htgt, rfl, hacc, hid⟩

theorem waiting (hsnd : Sound Known db) :
    ∀ row ∈ after.tombstones, row.status = .pending → ∀ target ∈ after.events,
      target.eventType = .message → target.account = row.account →
      target.conversation = row.conversation → target.platformEventId ≠ row.platformMessageId := by
  intro row hrow hpend target htgt hmsg hacc hconv hid
  rcases h.mem_tombstones hrow with hrow | rfl
  · exact hsnd.waiting row hrow hpend target (h.message_mem htgt hmsg) hmsg hacc
      hconv hid
  · cases hsrc : source with
    | none => exact h.source_spec.2 hsrc target htgt ⟨hacc, hconv, hid⟩
    | some _ =>
      rw [hsrc] at hpend
      cases hpend

theorem withdrawn (hsnd : Sound Known db)
    (hdeliv : (after.events.map fun row => (row.account, row.platformEventId)).Nodup) :
    ∀ notice ∈ after.recallEvents, ∀ target ∈ after.events, target.eventType = .message →
      notice.names target → ¬Leaks after.artifacts target.sourceEventId := by
  intro notice hntc target htgt hmsg hnames hleaks
  obtain ⟨hleaks, hoth⟩ := h.artifacts _ hleaks
  rcases h.mem_notices hntc with hntc | rfl
  · exact hsnd.withdrawn notice hntc target (h.message_mem htgt hmsg) hmsg hnames
      hleaks
  · cases hsrc : source with
    | none => exact h.source_spec.2 hsrc target htgt hnames
    | some row =>
      obtain ⟨hrow, hrowNames⟩ := h.source_spec.1 row hsrc
      have hsame : target = row := eq_of_key_eq hdeliv htgt hrow
        (by rw [hnames.1, hnames.2.2, hrowNames.1, hrowNames.2.2])
      exact hoth row hsrc (congrArg _ hsame)

end

end Records

theorem Sound.records (h : Sound Known db) {event : RecallEvent} {source : Option SourceEventRow}
    (hrecs : Records db after event source) (hkn : Known event.correlation)
    (hid : ∀ row ∈ db.events, row.sourceEventId ≠ event.recallEventId)
    (hdel : ∀ row ∈ db.events, row.isDelivery event.account
      ("recall:" ++ event.recallEventId.asStr) = false) : Sound Known after := by
  have hdeliv : (after.events.map fun row => (row.account, row.platformEventId)).Nodup :=
    hrecs.events ▸ nodup_deliveries_concat h hdel
  constructor
  case ids => exact hrecs.events ▸ nodup_ids_concat h hid
  case deliveries => exact hdeliv
  case known =>
    intro notice hntc
    rcases hrecs.mem_notices hntc with hntc | rfl
    · exact h.known notice hntc
    · exact ⟨_, hkn, row_isAbout event⟩
  case noticed =>
    intro notice hntc
    rcases hrecs.mem_notices hntc with hntc | rfl
    · obtain ⟨row, hrow, hrowId⟩ := h.noticed notice hntc
      exact ⟨row, hrecs.kept hrow, hrowId⟩
    · exact ⟨event.sourceRow, hrecs.events ▸ List.mem_append_right _ (List.mem_singleton_self _),
        rfl⟩
  case marked =>
    intro notice hntc
    rw [hrecs.tombstones]
    rcases hrecs.mem_notices hntc with hntc | rfl
    · obtain ⟨row, hrow, hmarks⟩ := h.marked notice hntc
      exact ⟨row, List.mem_append_left _ hrow, hmarks⟩
    · exact ⟨_, List.mem_append_right _ (List.mem_singleton_self _), tombstone_marks event source⟩
  case recorded =>
    intro row hrow
    rw [hrecs.notices]
    rcases hrecs.mem_tombstones hrow with hrow | rfl
    · obtain ⟨notice, hntc, hmarks⟩ := h.recorded row hrow
      exact ⟨notice, List.mem_append_left _ hntc, hmarks⟩
    · exact ⟨_, List.mem_append_right _ (List.mem_singleton_self _), tombstone_marks event source⟩
  case waiting => exact hrecs.waiting h
  case landed => exact hrecs.landed h
  case withdrawn => exact hrecs.withdrawn h hdeliv

/-- A recall that succeeds was recorded before under its key, or is recorded now. -/
theorem recordRecall_cases {event : RecallEvent} (hok : recordRecall event db = .ok (after, status)) :
    (∃ notice ∈ db.recallEvents, isRecordedKey event notice = true) ∧ after = db ∨
      db.recallEvents.any (isRecordedKey event) = false ∧
      (∀ row ∈ db.events, row.sourceEventId ≠ event.recallEventId) ∧
      (∀ row ∈ db.events, row.isDelivery event.account
        ("recall:" ++ event.recallEventId.asStr) = false) ∧ after = insertRecall event db := by
  simp only [recordRecall] at hok
  split at hok
  · cases hok
  split at hok
  · next hold =>
    cases hok
    exact .inl ⟨List.any_eq_true.mp hold, rfl⟩
  next hnew =>
  split at hok
  · cases hok
  next hfree =>
  cases hok
  refine .inr ⟨Bool.eq_false_iff.mpr hnew, ?_, ?_, rfl⟩
  · intro row hrow hid
    exact hfree (List.any_eq_true.mpr ⟨row, hrow, by simp [hid]⟩)
  · intro row hrow
    rw [Bool.eq_false_iff]
    intro hdel
    exact hfree (List.any_eq_true.mpr ⟨row, hrow, by simp [hdel]⟩)

theorem Sound.recordRecall (h : Sound Known db) {event : RecallEvent}
    (hkn : Known event.correlation) (hok : recordRecall event db = .ok (after, status)) :
    Sound Known after := by
  rcases recordRecall_cases hok with ⟨-, rfl⟩ | ⟨hnew, hid, hdel, rfl⟩
  · exact h
  · exact h.records (insertRecall_records h hnew hid) hkn hid hdel

/-! ## Artifacts -/

theorem Sound.event_of_id (h : Sound Known db) {a b : SourceEventRow} (ha : a ∈ db.events)
    (hb : b ∈ db.events) (hid : a.sourceEventId = b.sourceEventId) : a = b :=
  eq_of_key_eq h.ids ha hb hid

/-- Artifacts that are inserted are harmless when no recalled message has an available one. -/
theorem Sound.insertArtifacts (h : Sound Known db) {new : List ArtifactEnvelope}
    (hevs : after.events = db.events) (hntcs : after.recallEvents = db.recallEvents)
    (hrows : after.tombstones = db.tombstones)
    (hart : after.artifacts = insertIgnore sameArtifact db.artifacts new)
    (hnew : ∀ envelope ∈ new, envelope.availability = .available → ∀ notice ∈ db.recallEvents,
      ∀ event ∈ db.events, event.eventType = .message → notice.names event →
      event.sourceEventId ≠ envelope.sourceEventId) : Sound Known after where
  ids := hevs ▸ h.ids
  deliveries := hevs ▸ h.deliveries
  known := hntcs ▸ h.known
  noticed := by rw [hntcs, hevs]; exact h.noticed
  marked := by rw [hntcs, hrows]; exact h.marked
  recorded := by rw [hntcs, hrows]; exact h.recorded
  waiting := by rw [hrows, hevs]; exact h.waiting
  landed := by rw [hrows, hevs]; exact h.landed
  withdrawn := by
    rw [hntcs, hevs, hart]
    intro notice hntc event hev hmsg hnames hleaks
    rcases leaks_of_insertIgnore hleaks with hleaks | ⟨envelope, hmem, hsrc, hav⟩
    · exact h.withdrawn notice hntc event hev hmsg hnames hleaks
    · exact hnew envelope hmem hav notice hntc event hev hmsg hnames hsrc.symm

theorem Sound.createArtifact (h : Sound Known db) (hok : createArtifact envelope db = .ok after) :
    Sound Known after := by
  simp only [Recalls.createArtifact] at hok
  split at hok
  · cases hok
  split at hok
  · cases hok
  next hsrc =>
  split at hok
  · cases hok
  cases hok
  refine h.insertArtifacts rfl rfl rfl rfl ?_
  intro row hrow hav notice hntc event hev hmsg hnames hid
  rw [List.mem_singleton] at hrow
  -- the row of the envelope's event is the one that the recall names
  have hlock : db.events.any (fun row => row.sourceEventId = envelope.sourceEventId &&
      row.account = envelope.account) = true := by simpa using hsrc
  obtain ⟨locked, hlockedMem, hlock⟩ := List.any_eq_true.mp hlock
  simp only [Bool.and_eq_true, decide_eq_true_eq] at hlock
  have hrowId : row.sourceEventId = envelope.sourceEventId := by
    rw [hrow]
    split
    · rfl
    · rfl
  have hsame : event = locked :=
    h.event_of_id hev hlockedMem (hid.trans (hrowId.trans hlock.1.symm))
  have hrec := h.isRecalled hntc hev hmsg hnames
  rw [hsame, hlock.1, hlock.2] at hrec
  rw [hrow, if_pos hrec] at hav
  cases hav

/-! ## Derivation -/

theorem claim_tables (hok : claimArtifactDerivation now lease isLocked db = .ok (after, claimed)) :
    after.events = db.events ∧ after.recallEvents = db.recallEvents ∧
      after.tombstones = db.tombstones ∧ after.artifacts = db.artifacts := by
  simp only [claimArtifactDerivation] at hok
  split at hok
  · cases hok
    exact ⟨rfl, rfl, rfl, rfl⟩
  · split at hok
    · cases hok
    · cases hok
      exact ⟨rfl, rfl, rfl, rfl⟩

theorem Sound.claim (h : Sound Known db)
    (hok : claimArtifactDerivation now lease isLocked db = .ok (after, claimed)) :
    Sound Known after := by
  obtain ⟨hevs, hntcs, hrows, hart⟩ := claim_tables hok
  exact h.of_tables hevs hntcs hrows fun _ hleaks => hart ▸ hleaks

theorem updateDerivationStatus_tables (hok : updateDerivationStatus id lease set db = .ok after) :
    after.events = db.events ∧ after.recallEvents = db.recallEvents ∧
      after.tombstones = db.tombstones ∧ after.artifacts = db.artifacts := by
  simp only [updateDerivationStatus] at hok
  split at hok
  · cases hok
  · cases hok
    exact ⟨rfl, rfl, rfl, rfl⟩

theorem Sound.updateDerivationStatus (h : Sound Known db)
    (hok : updateDerivationStatus id lease set db = .ok after) : Sound Known after := by
  obtain ⟨hevs, hntcs, hrows, hart⟩ := updateDerivationStatus_tables hok
  exact h.of_tables hevs hntcs hrows fun _ hleaks => hart ▸ hleaks

theorem withDisplayName_spec (name : Option String) (envelope : ArtifactEnvelope) :
    (envelope.withDisplayName name).sourceEventId = envelope.sourceEventId ∧
      (envelope.withDisplayName name).availability = envelope.availability := by
  rw [ArtifactEnvelope.withDisplayName]
  split
  · exact ⟨rfl, rfl⟩
  · exact ⟨rfl, rfl⟩

theorem withDescription_spec (description : Option String) (envelope : ArtifactEnvelope) :
    (envelope.withDescription description).sourceEventId = envelope.sourceEventId ∧
      (envelope.withDescription description).availability = envelope.availability := by
  rw [ArtifactEnvelope.withDescription]
  split
  · exact ⟨rfl, rfl⟩
  · exact ⟨rfl, rfl⟩

theorem envelopeForSegment_spec {row : DerivationRow} {ttl : Option Int} {ordinal : ℕ}
    {segment : ContentSegment}
    (h : envelopeForSegment newV5 row ttl ordinal segment = .ok (some envelope)) :
    envelope.sourceEventId = row.sourceEventId ∧ envelope.availability = .available := by
  simp only [envelopeForSegment] at h
  split at h
  · split at h
    · cases h
    next fresh hnew =>
    have hfr : fresh.sourceEventId = row.sourceEventId ∧ fresh.availability = .available := by
      rw [ArtifactEnvelope.new, if_neg (by decide)] at hnew
      cases hnew
      exact ⟨rfl, rfl⟩
    have hname (name : Option String) :
        (if name.isSome then fresh.withDisplayName name else fresh).sourceEventId =
            row.sourceEventId ∧
          (if name.isSome then fresh.withDisplayName name else fresh).availability = .available := by
      split
      · rw [(withDisplayName_spec _ _).1, (withDisplayName_spec _ _).2]
        exact hfr
      · exact hfr
    rw [Except.ok.injEq, Option.some.injEq] at h
    rw [← h]
    split
    · rw [(withDescription_spec _ _).1, (withDescription_spec _ _).2]
      exact hname _
    · exact hname _
  · cases h

/-- A derived artifact belongs to the claimed message; it is available unless the claim saw the
message recalled. -/
theorem mem_derivedEnvelopes {row : DerivationRow} {ttl : UInt64}
    {envelopes : List ArtifactEnvelope} (h : derivedEnvelopes newV5 row ttl = .ok envelopes)
    (hmem : envelope ∈ envelopes) :
    envelope.sourceEventId = row.sourceEventId ∧
      envelope.availability = if row.recalled then .recalled else .available := by
  rw [derivedEnvelopes] at h
  obtain ⟨made, hmade, h⟩ := Lib.Except.bind_ok h
  cases h
  obtain ⟨fresh, hfr, rfl⟩ := List.mem_map.mp hmem
  obtain ⟨⟨segment, ordinal⟩, -, hsegment⟩ :=
    Lib.Except.mem_of_mapM_ok hmade (List.reduceOption_mem_iff.mp hfr)
  obtain ⟨hid, hav⟩ := envelopeForSegment_spec hsegment
  cases hflag : row.recalled with
  | true => exact ⟨hid, rfl⟩
  | false => exact ⟨hid, hav⟩

/-- The claimed row says that the message is not recalled, and a recorded recall names it. -/
def Stale (db : RecallDb) (row : DerivationRow) : Prop :=
  row.recalled = false ∧ ∃ notice ∈ db.recallEvents, ∃ event ∈ db.events,
    event.eventType = .message ∧ notice.names event ∧ event.sourceEventId = row.sourceEventId

/-- A derivation keeps what the flag of its claim still allows. -/
theorem Sound.derived (h : Sound Known db) {row : DerivationRow} {ttl : UInt64}
    (hfr : ¬Stale db row) (hok : deriveClaimedArtifacts newV5 row ttl db = .ok after) :
    Sound Known after := by
  rw [deriveClaimedArtifacts] at hok
  obtain ⟨envelopes, henv, hok⟩ := Lib.Except.bind_ok hok
  cases hok
  refine h.insertArtifacts rfl rfl rfl rfl ?_
  intro envelope hmem hav notice hntc event hev hmsg hnames hid
  obtain ⟨hsrc, hflag⟩ := mem_derivedEnvelopes henv hmem
  rw [hav] at hflag
  refine hfr ⟨?_, notice, hntc, event, hev, hmsg, hnames, hid.trans hsrc⟩
  rw [Bool.eq_false_iff]
  intro hrec
  rw [if_pos hrec] at hflag
  cases hflag

end ServerRS.Recalls

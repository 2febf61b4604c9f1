import ServerRS.Recalls.Transactions

/-!
# What the transactions keep

`Sound` relates the tables to each other: a recorded recall has its tombstone; a tombstone is
pending only while its message is not stored, and once applied it points at a stored event; no
artifact of a message that a recorded recall names is available. Every transaction keeps it, but
for a derivation that carries a flag which is no longer true (`Sound.derived`).

`Known` are the correlations that messages and recalls mention; two of them have the same key
only when they name the same message.
-/

namespace ServerRS.Recalls

open Lib

/-- The message that a recorded recall names. -/
def RecallEventRow.names (notice : RecallEventRow) (row : SourceEventRow) : Prop :=
  row.account = notice.account ∧ row.conversation = notice.conversation ∧
    row.platformEventId = notice.platformMessageId

/-- A message with an artifact that can still be retrieved. -/
def Leaks (artifacts : List ArtifactEnvelope) (sourceEventId : SourceEventId) : Prop :=
  ∃ envelope ∈ artifacts, envelope.sourceEventId = sourceEventId ∧
    envelope.availability = .available

def RecallEventRow.isAbout (notice : RecallEventRow) (correlation : RecallCorrelationKey) : Prop :=
  notice.account = correlation.account ∧ notice.conversation = correlation.conversation ∧
    notice.platformMessageId = correlation.platformMessageId ∧
    notice.correlationKey = keyString correlation

def TombstoneRow.marks (row : TombstoneRow) (notice : RecallEventRow) : Prop :=
  row.account = notice.account ∧ row.conversation = notice.conversation ∧
    row.platformMessageId = notice.platformMessageId ∧ row.correlationKey = notice.correlationKey

/-- Two correlations of one account with the same key name the same message. -/
def KeysDistinct (Known : RecallCorrelationKey → Prop) : Prop :=
  ∀ a b, Known a → Known b → a.account = b.account → keyString a = keyString b →
    a.conversation = b.conversation ∧ a.platformMessageId = b.platformMessageId

structure Sound (Known : RecallCorrelationKey → Prop) (db : RecallDb) : Prop where
  ids : (db.events.map SourceEventRow.sourceEventId).Nodup
  deliveries : (db.events.map fun row => (row.account, row.platformEventId)).Nodup
  known : ∀ notice ∈ db.recallEvents, ∃ correlation, Known correlation ∧ notice.isAbout correlation
  noticed : ∀ notice ∈ db.recallEvents, ∃ row ∈ db.events, row.sourceEventId = notice.recallEventId
  marked : ∀ notice ∈ db.recallEvents, ∃ row ∈ db.tombstones, row.marks notice
  recorded : ∀ row ∈ db.tombstones, ∃ notice ∈ db.recallEvents, row.marks notice
  waiting : ∀ row ∈ db.tombstones, row.status = .pending → ∀ event ∈ db.events,
    event.eventType = .message → event.account = row.account →
    event.conversation = row.conversation → event.platformEventId ≠ row.platformMessageId
  landed : ∀ row ∈ db.tombstones, row.status ≠ .pending → row.status = .applied ∧
    ∃ event ∈ db.events, row.sourceEventId = some event.sourceEventId ∧
      event.account = row.account ∧ event.platformEventId = row.platformMessageId
  withdrawn : ∀ notice ∈ db.recallEvents, ∀ event ∈ db.events, event.eventType = .message →
    notice.names event → ¬Leaks db.artifacts event.sourceEventId

theorem Sound.empty (Known : RecallCorrelationKey → Prop) : Sound Known .empty where
  ids := List.nodup_nil
  deliveries := List.nodup_nil
  known := by simp [RecallDb.empty]
  noticed := by simp [RecallDb.empty]
  marked := by simp [RecallDb.empty]
  recorded := by simp [RecallDb.empty]
  waiting := by simp [RecallDb.empty]
  landed := by simp [RecallDb.empty]
  withdrawn := by simp [RecallDb.empty]

/-! ## Artifacts are withdrawn -/

variable {artifacts : List ArtifactEnvelope} {id : SourceEventId}

theorem leaks_of_invalidate {other : SourceEventId}
    (h : Leaks (invalidateArtifactsForSource id artifacts) other) :
    Leaks artifacts other ∧ other ≠ id := by
  obtain ⟨envelope, hmem, hsrc, hav⟩ := h
  obtain ⟨old, hold, rfl⟩ := mem_updateWhere.mp hmem
  split at hsrc
  · next hset =>
    rw [if_pos hset] at hav
    cases hav
  · next hset =>
    rw [if_neg hset] at hav
    refine ⟨⟨old, hold, hsrc, hav⟩, ?_⟩
    rintro rfl
    exact hset (by simp [hsrc, hav])

theorem leaks_of_insertIgnore {new : List ArtifactEnvelope}
    (h : Leaks (insertIgnore sameArtifact artifacts new) id) :
    Leaks artifacts id ∨ ∃ envelope ∈ new, envelope.sourceEventId = id ∧
      envelope.availability = .available := by
  obtain ⟨envelope, hmem, hsrc, hav⟩ := h
  rcases mem_of_mem_insertIgnore hmem with hmem | hmem
  · exact .inl ⟨envelope, hmem, hsrc, hav⟩
  · exact .inr ⟨envelope, hmem, hsrc, hav⟩

section

variable {Known : RecallCorrelationKey → Prop} {db after : RecallDb}

namespace Sound

/-- The other tables do not matter. -/
theorem of_tables (h : Sound Known db) (hevs : after.events = db.events)
    (hntcs : after.recallEvents = db.recallEvents) (hrows : after.tombstones = db.tombstones)
    (hart : ∀ id, Leaks after.artifacts id → Leaks db.artifacts id) : Sound Known after where
  ids := hevs ▸ h.ids
  deliveries := hevs ▸ h.deliveries
  known := hntcs ▸ h.known
  noticed := by rw [hntcs, hevs]; exact h.noticed
  marked := by rw [hntcs, hrows]; exact h.marked
  recorded := by rw [hntcs, hrows]; exact h.recorded
  waiting := by rw [hrows, hevs]; exact h.waiting
  landed := by rw [hrows, hevs]; exact h.landed
  withdrawn := by
    rw [hntcs, hevs]
    intro notice hntc event hev hmsg hnames hleaks
    exact h.withdrawn notice hntc event hev hmsg hnames (hart _ hleaks)

theorem event_eq (h : Sound Known db) {a b : SourceEventRow} (ha : a ∈ db.events)
    (hb : b ∈ db.events) (hacc : a.account = b.account)
    (hid : a.platformEventId = b.platformEventId) : a = b :=
  eq_of_key_eq h.deliveries ha hb (by rw [hacc, hid])

/-- A stored message that a recorded recall names is marked as recalled. -/
theorem isRecalled (h : Sound Known db) {notice : RecallEventRow} {event : SourceEventRow}
    (hntc : notice ∈ db.recallEvents) (hev : event ∈ db.events)
    (hmsg : event.eventType = .message) (hnames : notice.names event) :
    db.isRecalled event.account event.sourceEventId = true := by
  obtain ⟨hacc, hconv, hid⟩ := hnames
  obtain ⟨row, hrow, hmarks⟩ := h.marked notice hntc
  have hnotPending : row.status ≠ .pending := by
    intro hpend
    exact h.waiting row hrow hpend event hev hmsg (hacc.trans hmarks.1.symm)
      (hconv.trans hmarks.2.1.symm) (hid.trans hmarks.2.2.1.symm)
  obtain ⟨happd, target, htgt, hsrc, htargetAccount, htargetId⟩ :=
    h.landed row hrow hnotPending
  have heq : target = event := h.event_eq htgt hev
    (by rw [htargetAccount, hmarks.1, hacc]) (by rw [htargetId, hmarks.2.2.1, hid])
  rw [RecallDb.isRecalled, List.any_eq_true]
  exact ⟨row, hrow, by simp [hmarks.1, hacc, hsrc, heq, happd]⟩

theorem isAbout_of_marks (h : Sound Known db) {row : TombstoneRow} (hrow : row ∈ db.tombstones) :
    ∃ correlation, Known correlation ∧ row.account = correlation.account ∧
      row.conversation = correlation.conversation ∧
      row.platformMessageId = correlation.platformMessageId ∧
      row.correlationKey = keyString correlation := by
  obtain ⟨notice, hntc, hacc, hconv, hid, hkey⟩ := h.recorded row hrow
  obtain ⟨correlation, hkn, habout⟩ := h.known notice hntc
  exact ⟨correlation, hkn, hacc.trans habout.1, hconv.trans habout.2.1,
    hid.trans habout.2.2.1, hkey.trans habout.2.2.2⟩

end Sound

theorem keyString_congr {a b : RecallCorrelationKey} (hacc : a.account = b.account)
    (hconv : a.conversation = b.conversation)
    (hid : a.platformMessageId = b.platformMessageId) : keyString a = keyString b := by
  rw [keyString, keyString, hacc, hconv, hid]

variable {row : TombstoneRow}

theorem awaits_iff (hdist : KeysDistinct Known) (h : Sound Known db)
    {correlation : RecallCorrelationKey} (hkn : Known correlation) (hrow : row ∈ db.tombstones) :
    awaits correlation.account (keyString correlation) row = true ↔
      row.status = .pending ∧ row.account = correlation.account ∧
        row.conversation = correlation.conversation ∧
        row.platformMessageId = correlation.platformMessageId := by
  obtain ⟨own, hown, hacc, hconv, hid, hkey⟩ := h.isAbout_of_marks hrow
  simp only [awaits, Bool.and_eq_true, decide_eq_true_eq]
  constructor
  · rintro ⟨⟨hsame, hsameKey⟩, hpend⟩
    obtain ⟨hc, hi⟩ := hdist own correlation hown hkn (hacc.symm.trans hsame)
      (hkey.symm.trans hsameKey)
    exact ⟨hpend, hsame, hconv.trans hc, hid.trans hi⟩
  · rintro ⟨hpend, hsame, hc, hi⟩
    refine ⟨⟨hsame, ?_⟩, hpend⟩
    rw [hkey]
    exact keyString_congr (hacc.symm.trans hsame) (hconv.symm.trans hc)
      (hid.symm.trans hi)

/-! ## A message arrives -/

/-- What is stored when a message arrives: the events, with the message among them. -/
structure Arrives (db after : RecallDb) (correlation : RecallCorrelationKey)
    (stored : SourceEventRow) : Prop where
  ids : (after.events.map SourceEventRow.sourceEventId).Nodup
  deliveries : (after.events.map fun row => (row.account, row.platformEventId)).Nodup
  kept : ∀ row ∈ db.events, row ∈ after.events
  new : ∀ row ∈ after.events, row ∈ db.events ∨ row = stored
  stored_mem : stored ∈ after.events
  account : stored.account = correlation.account
  messageId : stored.platformEventId = correlation.platformMessageId
  conversation : stored ∉ db.events → stored.conversation = correlation.conversation
  notices : after.recallEvents = db.recallEvents
  tombstones : after.tombstones = db.tombstones
  artifacts : after.artifacts = db.artifacts

variable {correlation : RecallCorrelationKey} {stored : SourceEventRow} {now : Int}

theorem applyPending_cases (account : SourceAccountRef) (key : String) (id : SourceEventId)
    (now : Int) (db : RecallDb) :
    (∀ row ∈ db.tombstones, awaits account key row = false) ∧
        applyPending account key id now db = db ∨
      applyPending account key id now db = { db with
        tombstones := updateWhere (awaits account key) (TombstoneRow.apply id now) db.tombstones
        artifacts := invalidateArtifactsForSource id db.artifacts } := by
  rw [applyPending]
  split
  · exact .inr rfl
  · next h =>
    refine .inl ⟨fun row hrow => ?_, rfl⟩
    rw [Bool.eq_false_iff]
    exact fun hawa => h (List.any_eq_true.mpr ⟨row, hrow, hawa⟩)

/-- The tombstones after the update, whether or not a row was pending. -/
theorem applyPending_tombstones (account : SourceAccountRef) (key : String) (id : SourceEventId)
    (now : Int) (db : RecallDb) : (applyPending account key id now db).tombstones =
      updateWhere (awaits account key) (TombstoneRow.apply id now) db.tombstones := by
  rcases applyPending_cases account key id now db with ⟨hnone, h⟩ | h
  · rw [h, updateWhere_of_forall_not hnone]
  · rw [h]

theorem applyPending_events (account : SourceAccountRef) (key : String) (id : SourceEventId)
    (now : Int) (db : RecallDb) : (applyPending account key id now db).events = db.events := by
  rcases applyPending_cases account key id now db with ⟨-, h⟩ | h
  · rw [h]
  · rw [h]

theorem applyPending_recallEvents (account : SourceAccountRef) (key : String) (id : SourceEventId)
    (now : Int) (db : RecallDb) :
    (applyPending account key id now db).recallEvents = db.recallEvents := by
  rcases applyPending_cases account key id now db with ⟨-, h⟩ | h
  · rw [h]
  · rw [h]

/-- A tombstone that is updated stays the mark of the same message. -/
theorem apply_marks {cond : TombstoneRow → Bool} {id : SourceEventId} {notice : RecallEventRow} :
    (if cond row then row.apply id now else row).marks notice ↔ row.marks notice := by
  split
  · exact Iff.rfl
  · exact Iff.rfl

namespace Sound

theorem landed_arrival (h : Sound Known db) (harr : Arrives db after correlation stored)
    (hdist : KeysDistinct Known) (hkn : Known correlation) :
    ∀ row ∈ updateWhere (awaits correlation.account (keyString correlation))
      (TombstoneRow.apply stored.sourceEventId now) db.tombstones, row.status ≠ .pending →
      row.status = .applied ∧ ∃ event ∈ after.events, row.sourceEventId = some event.sourceEventId ∧
        event.account = row.account ∧ event.platformEventId = row.platformMessageId := by
  intro row hrow hstat
  obtain ⟨old, hold, rfl⟩ := mem_updateWhere.mp hrow
  split at hstat
  · next hawa =>
    rw [if_pos hawa]
    obtain ⟨-, hacc, -, hid⟩ := (awaits_iff hdist h hkn hold).mp hawa
    exact ⟨rfl, stored, harr.stored_mem, rfl, harr.account.trans hacc.symm,
      harr.messageId.trans hid.symm⟩
  · next hawa =>
    rw [if_neg hawa]
    obtain ⟨happd, event, hev, hlanded⟩ := h.landed old hold hstat
    exact ⟨happd, event, harr.kept event hev, hlanded⟩

theorem waiting_arrival (h : Sound Known db) (harr : Arrives db after correlation stored)
    (hdist : KeysDistinct Known) (hkn : Known correlation) :
    ∀ row ∈ updateWhere (awaits correlation.account (keyString correlation))
      (TombstoneRow.apply stored.sourceEventId now) db.tombstones, row.status = .pending →
      ∀ event ∈ after.events, event.eventType = .message → event.account = row.account →
        event.conversation = row.conversation → event.platformEventId ≠ row.platformMessageId := by
  intro row hrow hpend event hev hmsg hacc hconv hid
  obtain ⟨old, hold, rfl⟩ := mem_updateWhere.mp hrow
  split at hpend
  · cases hpend
  next hawa =>
  rw [if_neg hawa] at hacc hconv hid
  by_cases hbef : event ∈ db.events
  · exact h.waiting old hold hpend event hbef hmsg hacc hconv hid
  -- the message is new: the tombstone is the one that the update is about
  · have hstd : event = stored := (harr.new event hev).resolve_left hbef
    subst hstd
    exact hawa ((awaits_iff hdist h hkn hold).mpr ⟨hpend,
      hacc.symm.trans harr.account,
      hconv.symm.trans (harr.conversation hbef),
      hid.symm.trans harr.messageId⟩)

theorem withdrawn_arrival (h : Sound Known db) (harr : Arrives db after correlation stored)
    (hdist : KeysDistinct Known) (hkn : Known correlation) :
    ∀ notice ∈ db.recallEvents, ∀ event ∈ after.events, event.eventType = .message →
      notice.names event → ¬Leaks (applyPending correlation.account (keyString correlation)
        stored.sourceEventId now after).artifacts event.sourceEventId := by
  intro notice hntc event hev hmsg hnames hleaks
  have hold : event ∈ db.events → ¬Leaks db.artifacts event.sourceEventId := fun hbef =>
    h.withdrawn notice hntc event hbef hmsg hnames
  rcases applyPending_cases correlation.account (keyString correlation) stored.sourceEventId now
    after with ⟨hnone, heq⟩ | heq
  · rw [heq, harr.artifacts] at hleaks
    by_cases hbef : event ∈ db.events
    · exact hold hbef hleaks
    -- a new message that the recall names has a tombstone, and it is pending
    obtain rfl := (harr.new event hev).resolve_left hbef
    obtain ⟨hacc, hconv, hid⟩ := hnames
    obtain ⟨row, hrow, hmarks⟩ := h.marked notice hntc
    have hpend : row.status = .pending := by
      by_contra hstat
      obtain ⟨-, target, htgt, -, htargetAccount, htargetId⟩ := h.landed row hrow hstat
      have hsame : target = event := eq_of_key_eq harr.deliveries
        (harr.kept target htgt) hev
        (by rw [htargetAccount, htargetId, hmarks.1, hmarks.2.2.1, hacc, hid])
      exact hbef (hsame ▸ htgt)
    have hawa := (awaits_iff hdist h hkn hrow).mpr ⟨hpend,
      hmarks.1.trans (hacc.symm.trans harr.account),
      hmarks.2.1.trans (hconv.symm.trans (harr.conversation hbef)),
      hmarks.2.2.1.trans (hid.symm.trans harr.messageId)⟩
    rw [harr.tombstones] at hnone
    exact Bool.false_ne_true ((hnone row hrow).symm.trans hawa)
  · rw [heq, harr.artifacts] at hleaks
    obtain ⟨hleaks, hoth⟩ := leaks_of_invalidate hleaks
    rcases harr.new event hev with hbef | rfl
    · exact hold hbef hleaks
    · exact hoth rfl

/-- A message that arrives takes its tombstone with it. -/
theorem arrival (h : Sound Known db) (harr : Arrives db after correlation stored)
    (hdist : KeysDistinct Known) (hkn : Known correlation) :
    Sound Known (applyPending correlation.account (keyString correlation) stored.sourceEventId now
      after) := by
  have hevs := applyPending_events correlation.account (keyString correlation)
    stored.sourceEventId now after
  have hntcs := (applyPending_recallEvents correlation.account (keyString correlation)
    stored.sourceEventId now after).trans harr.notices
  have hrows := applyPending_tombstones correlation.account (keyString correlation)
    stored.sourceEventId now after
  rw [harr.tombstones] at hrows
  constructor
  case ids => exact hevs ▸ harr.ids
  case deliveries => exact hevs ▸ harr.deliveries
  case known => exact hntcs ▸ h.known
  case noticed =>
    rw [hntcs, hevs]
    intro notice hntc
    obtain ⟨row, hrow, hid⟩ := h.noticed notice hntc
    exact ⟨row, harr.kept row hrow, hid⟩
  case marked =>
    rw [hntcs, hrows]
    intro notice hntc
    obtain ⟨row, hrow, hmarks⟩ := h.marked notice hntc
    exact ⟨_, mem_updateWhere.mpr ⟨row, hrow, rfl⟩, apply_marks.mpr hmarks⟩
  case recorded =>
    rw [hntcs, hrows]
    intro row hrow
    obtain ⟨old, hold, rfl⟩ := mem_updateWhere.mp hrow
    obtain ⟨notice, hntc, hmarks⟩ := h.recorded old hold
    exact ⟨notice, hntc, apply_marks.mpr hmarks⟩
  case waiting =>
    rw [hrows, hevs]
    exact h.waiting_arrival harr hdist hkn
  case landed =>
    rw [hrows, hevs]
    exact h.landed_arrival harr hdist hkn
  case withdrawn =>
    rw [hntcs, hevs]
    exact h.withdrawn_arrival harr hdist hkn

end Sound

end

end ServerRS.Recalls

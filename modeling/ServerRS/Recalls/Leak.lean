import ServerRS.Lib.SplitList
import ServerRS.Recalls.Steps

/-!
# No artifact of a recalled message stays available

The transactions of any number of workers, one after the other. A worker that claimed a
derivation holds the row it was handed, with the flag that was read then, until it derives.

Once a recall is recorded and its message is stored, the message is marked, and no artifact of it
is available, as long as no worker derives from a flag that a recall has overtaken; such a
derivation leaves an available artifact unless every artifact of the message was already stored
(`nothingLeft_iff`).
-/

namespace ServerRS.Recalls

open Lib

/-- The tables, and what the workers that claimed a derivation hold. -/
structure World where
  db : RecallDb
  claims : List (DerivationRow × String)

inductive Transaction where
  | insertMessages (arrivals : List (InboundMessageEnvelope × SourceEventId)) (now : Int)
  | applyPendingTombstone (message : InboundMessageEnvelope) (now : Int)
  | recordRecall (event : RecallEvent)
  | createArtifact (envelope : ArtifactEnvelope)
  | claim (now : Int) (lease : String) (locked : List SourceEventId)
  | derive (lease : String) (defaultTtlSecs : UInt64)
  | complete (sourceEventId : SourceEventId) (lease : String)
  | giveUp (sourceEventId : SourceEventId) (lease code : String)
  | retry (sourceEventId : SourceEventId) (lease : String)

namespace World

variable {ε : Type}

/-- A transaction that fails leaves the tables as they were. -/
def commit (w : World) : Except ε RecallDb → World
  | .ok db => { w with db }
  | .error _ => w

def claimOf (w : World) (lease : String) : Option DerivationRow :=
  (w.claims.find? fun claimed => claimed.2 = lease).map Prod.fst

/-- The hook of the ingestion worker, for a message that is stored. -/
def storedOf (w : World) (message : InboundMessageEnvelope) : Option SourceEventRow :=
  w.db.events.find? (SourceEventRow.isDelivery message.source.accountRef message.source.messageId)

def step (newV5 : String → String) (w : World) : Transaction → World
  | .insertMessages arrivals now => w.commit (insertMessagesIfAbsent arrivals now w.db)
  | .applyPendingTombstone message now =>
    match w.storedOf message with
    | some stored => { w with
      db := Recalls.applyPendingTombstone (messageCorrelation message) stored.sourceEventId now
        w.db }
    | none => w
  | .recordRecall event => w.commit ((Recalls.recordRecall event w.db).map Prod.fst)
  | .createArtifact envelope => w.commit (Recalls.createArtifact envelope w.db)
  | .claim now lease locked =>
    match claimArtifactDerivation now lease (· ∈ locked) w.db with
    | .ok (db, claimed) => ⟨db, w.claims ++ claimed.toList⟩
    | .error _ => w
  | .derive lease defaultTtlSecs =>
    match w.claimOf lease with
    | some row => { w.commit (deriveClaimedArtifacts newV5 row defaultTtlSecs w.db) with
      claims := w.claims.filter fun claimed => claimed.2 ≠ lease }
    | none => w
  | .complete sourceEventId lease =>
    w.commit (completeArtifactDerivation sourceEventId lease w.db)
  | .giveUp sourceEventId lease code =>
    w.commit (failArtifactDerivation sourceEventId lease code w.db)
  | .retry sourceEventId lease => w.commit (retryArtifactDerivation sourceEventId lease w.db)

end World

def run (newV5 : String → String) (log : List Transaction) : World :=
  log.foldl (World.step newV5) ⟨.empty, []⟩

theorem run_snoc (newV5 : String → String) (log : List Transaction) (t : Transaction) :
    run newV5 (log ++ [t]) = (run newV5 log).step newV5 t := by
  rw [run, List.foldl_append]
  rfl

def Transaction.mentions : Transaction → List RecallCorrelationKey
  | .insertMessages arrivals _ => arrivals.map fun arrival => messageCorrelation arrival.1
  | .applyPendingTombstone message _ => [messageCorrelation message]
  | .recordRecall event => [event.correlation]
  | _ => []

def Mentioned (log : List Transaction) (correlation : RecallCorrelationKey) : Prop :=
  ∃ t ∈ log, correlation ∈ t.mentions

/-- The recall was recorded in the log, now or earlier under the same key. -/
def Recorded (newV5 : String → String) (log : List Transaction) (event : RecallEvent) : Prop :=
  ∃ before after, log = before ++ .recordRecall event :: after ∧
    (recordRecall event (run newV5 before).db).isOk = true

/-- After the log, the stored messages of recorded recalls are marked and have no available
artifact. -/
def NothingLeft (newV5 : String → String) (log : List Transaction) : Prop :=
  ∀ event, Recorded newV5 log event → ∀ row ∈ (run newV5 log).db.events,
    row.eventType = .message → event.names row = true →
    (run newV5 log).db.isRecalled row.account row.sourceEventId = true ∧
      ∀ envelope ∈ (run newV5 log).db.artifacts, envelope.sourceEventId = row.sourceEventId →
        envelope.availability ≠ .available

/-- A claim whose flag a recall has overtaken derives no artifact that is not stored yet. -/
def Withholds (newV5 : String → String) (w : World) (lease : String) (defaultTtlSecs : UInt64) :
    Prop :=
  ∀ row, w.claimOf lease = some row → Stale w.db row →
    ∀ envelopes, derivedEnvelopes newV5 row defaultTtlSecs = .ok envelopes →
      ∀ envelope ∈ envelopes, w.db.artifacts.any (sameArtifact envelope) = true

/-! ## Keys -/

theorem colon_notMem_kind (kind : ConversationKind) : ':' ∉ kind.asStr.toList := by
  cases kind <;> decide

theorem kind_of_asStr {a b : ConversationKind} (h : a.asStr = b.asStr) : a = b := by
  revert h
  cases a <;> cases b <;> decide

theorem keyString_toList (correlation : RecallCorrelationKey) : (keyString correlation).toList =
    correlation.account.channel.asStr.toList ++ ':' :: (correlation.account.accountId.toList ++ ':' ::
      (correlation.conversation.kind.asStr.toList ++ ':' ::
        (correlation.conversation.id.toList ++ ':' :: correlation.platformMessageId.toList))) := by
  have hcolon : ":".toList = [':'] := by decide
  simp [keyString, joinKey, String.toList_append, hcolon]

/-- Keys collide only when a conversation id has a colon in it. -/
theorem keysDistinct_of_colonFree {Known : RecallCorrelationKey → Prop}
    (h : ∀ correlation, Known correlation → ':' ∉ correlation.conversation.id.toList) :
    KeysDistinct Known := by
  intro a b ha hb hacc hkey
  have hlist := congrArg String.toList hkey
  rw [keyString_toList, keyString_toList, hacc] at hlist
  have hrest := (List.cons.inj (List.append_cancel_left hlist)).2
  have hrest := (List.cons.inj (List.append_cancel_left hrest)).2
  obtain ⟨hkind, hrest⟩ := append_mark_inj (colon_notMem_kind _) (colon_notMem_kind _) hrest
  obtain ⟨hid, hmsg⟩ := append_mark_inj (h a ha) (h b hb) hrest
  refine ⟨?_, String.toList_injective hmsg⟩
  calc a.conversation
      = ⟨a.conversation.kind, a.conversation.id⟩ := rfl
    _ = ⟨b.conversation.kind, b.conversation.id⟩ := by
      rw [kind_of_asStr (String.toList_injective hkind), String.toList_injective hid]
    _ = b.conversation := rfl

section

variable {Known : RecallCorrelationKey → Prop} {newV5 : String → String} {w : World}
  {log : List Transaction}

/-! ## One step -/

theorem Sound.commit {ε : Type} (h : Sound Known w.db) {result : Except ε RecallDb}
    (hok : ∀ after, result = .ok after → Sound Known after) : Sound Known (w.commit result).db := by
  cases result with
  | error e => exact h
  | ok after => exact hok after rfl

theorem Sound.applyPendingTombstone (h : Sound Known w.db) (hdist : KeysDistinct Known)
    {message : InboundMessageEnvelope} (hkn : Known (messageCorrelation message)) {now : Int}
    {stored : SourceEventRow} (hstd : w.storedOf message = some stored) :
    Sound Known (Recalls.applyPendingTombstone (messageCorrelation message) stored.sourceEventId now
      w.db) :=
  h.arrival (arrives_duplicate h (List.mem_of_find?_eq_some hstd) (List.find?_some hstd) rfl
    rfl rfl rfl) hdist hkn

variable {lease : String} {ttl : UInt64} {row : DerivationRow} {after db : RecallDb}
  {event : RecallEvent} {before : List Transaction}

theorem Sound.derive (h : Sound Known w.db) (hcl : w.claimOf lease = some row)
    (hfr : Withholds newV5 w lease ttl)
    (hok : deriveClaimedArtifacts newV5 row ttl w.db = .ok after) : Sound Known after := by
  by_cases hstale : Stale w.db row
  -- nothing is inserted
  · rw [deriveClaimedArtifacts] at hok
    obtain ⟨envelopes, henv, hok⟩ := Lib.Except.bind_ok hok
    cases hok
    rw [insertIgnore_of_forall (hfr row hcl hstale envelopes henv)]
    exact h.of_tables rfl rfl rfl fun _ hleaks => hleaks
  · exact h.derived hstale hok

theorem Sound.step (h : Sound Known w.db) (hdist : KeysDistinct Known) {t : Transaction}
    (hkn : ∀ correlation ∈ t.mentions, Known correlation)
    (hfr : ∀ lease ttl, t = .derive lease ttl → Withholds newV5 w lease ttl) :
    Sound Known (w.step newV5 t).db := by
  cases t with
  | insertMessages arrivals now =>
    refine h.commit fun after hok => h.insertMessages hdist (fun arrival harrival => ?_) hok
    exact hkn _ (List.mem_map_of_mem harrival)
  | applyPendingTombstone message now =>
    rw [World.step]
    split
    · next hstd =>
      exact h.applyPendingTombstone hdist (hkn _ (List.mem_singleton_self _)) hstd
    · exact h
  | recordRecall event =>
    refine h.commit fun after hok => ?_
    cases hrec : Recalls.recordRecall event w.db with
    | error e =>
      rw [hrec] at hok
      cases hok
    | ok result =>
      rw [hrec] at hok
      cases hok
      exact h.recordRecall (hkn _ (List.mem_singleton_self _)) hrec
  | createArtifact envelope => exact h.commit fun after hok => h.createArtifact hok
  | claim now lease locked =>
    rw [World.step]
    split
    · next hok => exact h.claim hok
    · exact h
  | derive lease ttl =>
    rw [World.step]
    split
    · next hcl => exact h.commit fun after hok => h.derive hcl (hfr lease ttl rfl) hok
    · exact h
  | complete sourceEventId lease => exact h.commit fun after hok => h.updateDerivationStatus hok
  | giveUp sourceEventId lease code => exact h.commit fun after hok => h.updateDerivationStatus hok
  | retry sourceEventId lease => exact h.commit fun after hok => h.updateDerivationStatus hok

/-! ## The recorded recalls -/

theorem insertMessages_recallEvents {now : Int}
    {arrivals : List (InboundMessageEnvelope × SourceEventId)}
    (hok : insertMessagesIfAbsent arrivals now db = .ok after) :
    after.recallEvents = db.recallEvents := by
  rw [insertMessagesIfAbsent] at hok
  split at hok
  · cases hok
  refine Lib.Except.foldlM_keeps (P := fun other => other.recallEvents = db.recallEvents)
    (fun arrival _ before after hbef hstep => ?_) rfl hok
  rw [← hbef]
  simp only [processMessageInTransaction] at hstep
  split at hstep
  · cases hstep
    exact applyPending_recallEvents _ _ _ _ _
  · split at hstep
    · cases hstep
    · cases hstep
      exact applyPending_recallEvents _ _ _ _ _

theorem createArtifact_recallEvents {envelope : ArtifactEnvelope}
    (hok : createArtifact envelope db = .ok after) : after.recallEvents = db.recallEvents := by
  simp only [createArtifact] at hok
  split at hok
  · cases hok
  split at hok
  · cases hok
  split at hok
  · cases hok
  cases hok
  rfl

theorem derive_tables (hok : deriveClaimedArtifacts newV5 row ttl db = .ok after) :
    after.events = db.events ∧ after.recallEvents = db.recallEvents := by
  rw [deriveClaimedArtifacts] at hok
  obtain ⟨envelopes, -, hok⟩ := Lib.Except.bind_ok hok
  cases hok
  exact ⟨rfl, rfl⟩

theorem commit_recallEvents {ε : Type} {result : Except ε RecallDb}
    (hok : ∀ after, result = .ok after → after.recallEvents = w.db.recallEvents) :
    (w.commit result).db.recallEvents = w.db.recallEvents := by
  cases result with
  | error e => rfl
  | ok after => exact hok after rfl

/-- Only a recall that is recorded writes a recall event. -/
theorem step_recallEvents (newV5 : String → String) (w : World) (t : Transaction) :
    (w.step newV5 t).db.recallEvents = w.db.recallEvents ∨
      ∃ event, t = .recordRecall event ∧ (recordRecall event w.db).isOk = true ∧
        (w.step newV5 t).db = insertRecall event w.db := by
  cases t with
  | insertMessages arrivals now =>
    exact .inl (commit_recallEvents fun after hok => insertMessages_recallEvents hok)
  | applyPendingTombstone message now =>
    rw [World.step]
    split
    · exact .inl (applyPending_recallEvents _ _ _ _ _)
    · exact .inl rfl
  | recordRecall event =>
    rw [World.step]
    cases hrec : recordRecall event w.db with
    | error e => exact .inl rfl
    | ok result =>
      rcases recordRecall_cases hrec with ⟨-, hsame⟩ | ⟨-, -, -, hnew⟩
      · exact .inl (congrArg _ hsame)
      · exact .inr ⟨event, rfl, by rw [hrec]; rfl, hnew⟩
  | createArtifact envelope =>
    exact .inl (commit_recallEvents fun after hok => createArtifact_recallEvents hok)
  | claim now lease locked =>
    rw [World.step]
    split
    · next hok => exact .inl (claim_tables hok).2.1
    · exact .inl rfl
  | derive lease ttl =>
    rw [World.step]
    split
    · exact .inl (commit_recallEvents fun after hok => (derive_tables hok).2)
    · exact .inl rfl
  | complete sourceEventId lease =>
    exact .inl (commit_recallEvents fun after hok => (updateDerivationStatus_tables hok).2.1)
  | giveUp sourceEventId lease code =>
    exact .inl (commit_recallEvents fun after hok => (updateDerivationStatus_tables hok).2.1)
  | retry sourceEventId lease =>
    exact .inl (commit_recallEvents fun after hok => (updateDerivationStatus_tables hok).2.1)

theorem recorded_snoc {t : Transaction} :
    Recorded newV5 (log ++ [t]) event ↔ Recorded newV5 log event ∨
      t = .recordRecall event ∧ (recordRecall event (run newV5 log).db).isOk = true := by
  constructor
  · rintro ⟨before, after, hspl, hok⟩
    rcases snoc_eq_split.mp hspl with ⟨rfl, rfl, rfl⟩ | ⟨rest, rfl, rfl⟩
    · exact .inr ⟨rfl, hok⟩
    · exact .inl ⟨before, rest, rfl, hok⟩
  · rintro (⟨before, after, rfl, hok⟩ | ⟨rfl, hok⟩)
    · exact ⟨before, after ++ [t], by simp, hok⟩
    · exact ⟨log, [], rfl, hok⟩

theorem recorded_of_mem {notice : RecallEventRow} (h : notice ∈ (run newV5 log).db.recallEvents) :
    ∃ event, Recorded newV5 log event ∧ notice = event.row := by
  induction log using List.reverseRecOn with
  | nil => cases h
  | append_singleton log t ih =>
    rw [run_snoc] at h
    rcases step_recallEvents newV5 (run newV5 log) t with hsame | ⟨event, rfl, hok, hdb⟩
    · rw [hsame] at h
      obtain ⟨event, hrecd, rfl⟩ := ih h
      exact ⟨event, recorded_snoc.mpr (.inl hrecd), rfl⟩
    · rw [hdb] at h
      rcases mem_of_mem_insertIgnore h with h | h
      · obtain ⟨other, hrecd, rfl⟩ := ih h
        exact ⟨other, recorded_snoc.mpr (.inl hrecd), rfl⟩
      · exact ⟨event, recorded_snoc.mpr (.inr ⟨rfl, hok⟩), List.mem_singleton.mp h⟩

/-- A recorded recall has its row, from then on. -/
theorem notice_of_recorded (hdist : KeysDistinct (Mentioned log))
    (hsnd : ∀ before, before <+: log → Sound (Mentioned log) (run newV5 before).db)
    (hbef : before <+: log) (h : Recorded newV5 before event) :
    ∃ notice ∈ (run newV5 before).db.recallEvents, ∀ row, notice.names row ↔
      event.row.names row := by
  induction before using List.reverseRecOn with
  | nil =>
    obtain ⟨before, after, hspl, -⟩ := h
    simp at hspl
  | append_singleton before t ih =>
    have hshor : before <+: log := (List.prefix_append before [t]).trans hbef
    rw [run_snoc]
    rcases recorded_snoc.mp h with h | ⟨rfl, hok⟩
    · obtain ⟨notice, hntc, hsame⟩ := ih hshor h
      refine ⟨notice, ?_, hsame⟩
      rcases step_recallEvents newV5 (run newV5 before) t with hstep | ⟨event', -, -, hdb⟩
      · rw [hstep]
        exact hntc
      · rw [hdb]
        exact subset_insertIgnore hntc
    have hment : Mentioned log event.correlation :=
      ⟨_, hbef.subset (List.mem_append_right _ (List.mem_singleton_self _)),
        List.mem_singleton_self _⟩
    cases hrec : recordRecall event (run newV5 before).db with
    | error e =>
      rw [hrec] at hok
      cases hok
    | ok result =>
      have hdb : ((run newV5 before).step newV5 (.recordRecall event)).db = result.1 := by
        rw [World.step, hrec]
        rfl
      rw [hdb]
      rcases recordRecall_cases hrec with ⟨⟨notice, hntc, hkey⟩, hsame⟩ | ⟨hnew, hid, -, hnow⟩
      -- recorded earlier under this key, so for this message
      · obtain ⟨hacc, hkey⟩ := isRecordedKey_iff.mp hkey
        obtain ⟨other, hoth, habout⟩ := (hsnd before hshor).known notice hntc
        obtain ⟨hconv, hmsg⟩ := hdist other event.correlation hoth hment
          (habout.1.symm.trans (hacc.trans event.sameAccount.symm))
          (habout.2.2.2.symm.trans hkey)
        refine ⟨notice, hsame ▸ hntc, fun row => ?_⟩
        rw [RecallEventRow.names, RecallEventRow.names, hacc, habout.2.1, habout.2.2.1,
          hconv, hmsg]
        exact Iff.rfl
      · refine ⟨event.row, ?_, fun row => Iff.rfl⟩
        rw [hnow, (insertRecall_records (hsnd before hshor) hnew hid).notices]
        exact List.mem_append_right _ (List.mem_singleton_self _)

/-! ## Runs -/

theorem nothingLeft_of_sound (hdist : KeysDistinct (Mentioned log))
    (hsnd : ∀ before, before <+: log → Sound (Mentioned log) (run newV5 before).db)
    (hbef : before <+: log) : NothingLeft newV5 before := by
  intro event hrecd row hrow hmsg hnames
  obtain ⟨notice, hntc, hsame⟩ := notice_of_recorded hdist hsnd hbef hrecd
  have hnames := (hsame row).mpr (names_iff.mp hnames)
  refine ⟨(hsnd before hbef).isRecalled hntc hrow hmsg hnames, ?_⟩
  intro envelope hmem hid hav
  exact (hsnd before hbef).withdrawn notice hntc row hrow hmsg hnames
    ⟨envelope, hmem, hid, hav⟩

theorem step_derive_db (hcl : w.claimOf lease = some row)
    (hok : deriveClaimedArtifacts newV5 row ttl w.db = .ok after) :
    (w.step newV5 (.derive lease ttl)).db = after := by
  rw [World.step, hcl]
  show (w.commit (deriveClaimedArtifacts newV5 row ttl w.db)).db = after
  rw [hok]
  rfl

/-- A derivation from an overtaken flag that inserts something leaves it available. -/
theorem withholds_of_nothingLeft (h : NothingLeft newV5 (log ++ [.derive lease ttl])) :
    Withholds newV5 (run newV5 log) lease ttl := by
  intro row hcl ⟨hflag, notice, hntc, target, htgt, hmsg, hnames, hid⟩ envelopes
    henv envelope hmem
  by_contra hfree
  rw [Bool.not_eq_true] at hfree
  obtain ⟨event, hrecd, rfl⟩ := recorded_of_mem hntc
  have hok : deriveClaimedArtifacts newV5 row ttl (run newV5 log).db = .ok {
      (run newV5 log).db with
      artifacts := insertIgnore sameArtifact (run newV5 log).db.artifacts envelopes } := by
    rw [deriveClaimedArtifacts, henv]
    rfl
  have hdb : (run newV5 (log ++ [.derive lease ttl])).db = { (run newV5 log).db with
      artifacts := insertIgnore sameArtifact (run newV5 log).db.artifacts envelopes } := by
    rw [run_snoc, step_derive_db hcl hok]
  obtain ⟨inserted, hinsd, hin⟩ := exists_mem_insertIgnore hmem hfree
  obtain ⟨hsrc, hav⟩ := mem_derivedEnvelopes henv hinsd
  have hleft := (h event (recorded_snoc.mpr (.inl hrecd)) target (by rw [hdb]; exact htgt)
    hmsg (names_iff.mpr hnames)).2
  refine hleft inserted (by rw [hdb]; exact hin) (hsrc.trans hid.symm) ?_
  rw [hav, hflag]
  rfl

theorem sound_of_withholds (hdist : KeysDistinct (Mentioned log)) (hbef : before <+: log)
    (hfr : ∀ shorter lease ttl, shorter ++ [.derive lease ttl] <+: before →
      Withholds newV5 (run newV5 shorter) lease ttl) :
    Sound (Mentioned log) (run newV5 before).db := by
  induction before using List.reverseRecOn with
  | nil => exact .empty _
  | append_singleton before t ih =>
    have hlast := List.prefix_append before [t]
    have hsnd := ih (hlast.trans hbef) fun shorter lease ttl h =>
      hfr shorter lease ttl (h.trans hlast)
    rw [run_snoc]
    refine hsnd.step hdist (fun correlation hmem => ?_) fun lease ttl ht => ?_
    · exact ⟨t, hbef.subset (List.mem_append_right _ (List.mem_singleton_self t)), hmem⟩
    · subst ht
      exact hfr before lease ttl List.prefix_rfl

/-- The recalled messages stay marked and without available artifacts in every state of a run,
exactly when no derivation inserts artifacts from a flag that a recall has overtaken. -/
theorem nothingLeft_iff (newV5 : String → String) (log : List Transaction)
    (hdistinct : KeysDistinct (Mentioned log)) :
    (∀ before, before <+: log → NothingLeft newV5 before) ↔
      ∀ before lease ttl, before ++ [.derive lease ttl] <+: log →
        Withholds newV5 (run newV5 before) lease ttl := by
  constructor
  · intro h before lease ttl hbef
    exact withholds_of_nothingLeft (h _ hbef)
  · intro h before hbef
    refine nothingLeft_of_sound hdistinct (fun other hoth => ?_) hbef
    exact sound_of_withholds hdistinct hoth fun shorter lease ttl hshor =>
      h shorter lease ttl (hshor.trans hoth)

end

/-! ## A recall between claim and derivation -/

namespace Scripted

def account : SourceAccountRef := ⟨.napCat, "10001"⟩

def conversation : ConversationRef := ⟨.group, "20001"⟩

/-- An image in a group. -/
def picture : InboundMessageEnvelope where
  source := ⟨.napCat, "10001", "30001"⟩
  conversation := conversation
  actor := ⟨.external, "40001"⟩
  occurredAtUnixSecs := 1000
  normalizedText := "[image]"
  segments := [.media .image "image-key" none none]
  connectionEpochId := none
  senderProfile := none

def pictureId : SourceEventId := ⟨"5cdd2d53-7d2b-4b1c-9c05-0a0a35b2f0e1", by decide⟩

def pictureRecall : RecallEvent where
  recallEventId := ⟨"c1a9b6f0-17c4-4a52-8d86-6a1f44bb3c02", by decide⟩
  account := account
  kind := .group
  correlation := ⟨account, .napCat, conversation, "30001"⟩
  operatorPlatformId := some "40001"
  occurredAtUnixSecs := 1010
  sameAccount := rfl

/-- The worker claims the derivation, the recall commits, and the worker derives. -/
def overtaken : List Transaction :=
  [.insertMessages [(picture, pictureId)] 1001, .claim 1005 "lease" [], .recordRecall pictureRecall,
    .derive "lease" 0]

/-- `Uuid::new_v5`, told apart by the name. -/
def newV5 (name : String) : String := "v5/" ++ name

theorem overtaken_keys : KeysDistinct (Mentioned overtaken) := by
  refine keysDistinct_of_colonFree fun correlation ⟨t, ht, hmem⟩ => ?_
  have hall : ∀ t ∈ overtaken, ∀ correlation ∈ t.mentions,
      ':' ∉ correlation.conversation.id.toList := by decide
  exact hall t ht correlation hmem

theorem recalledArtifact_available :
    ¬∀ before, before <+: overtaken → NothingLeft newV5 before := by
  intro h
  have hrow : ∃ row ∈ (run newV5 overtaken).db.events, row.eventType = .message ∧
      pictureRecall.names row = true ∧ ∃ envelope ∈ (run newV5 overtaken).db.artifacts,
        envelope.sourceEventId = row.sourceEventId ∧ envelope.availability = .available := by
    decide
  obtain ⟨row, hrow, hmsg, hnames, envelope, hmem, hid, hav⟩ := hrow
  have hrecd : Recorded newV5 overtaken pictureRecall :=
    ⟨overtaken.take 2, [.derive "lease" 0], rfl, by decide⟩
  exact (h overtaken List.prefix_rfl pictureRecall hrecd row hrow hmsg hnames).2 envelope
    hmem hid hav

theorem nothingLeft_iff_overtaken :
    (∀ before, before <+: overtaken → NothingLeft newV5 before) ↔
      ∀ before lease ttl, before ++ [.derive lease ttl] <+: overtaken →
        Withholds newV5 (run newV5 before) lease ttl :=
  nothingLeft_iff newV5 overtaken overtaken_keys

end Scripted

end ServerRS.Recalls

import ServerRS.Lib.Delimited
import ServerRS.Recalls.Leak

/-!
# The keys that are stored

Models `SourceMessageRef::idempotency_key` of `personal-secretary/src/domain/inbound.rs`, next to the
two places that put a correlation key together: `RecallCorrelationKey::key_string` (`keyString`), which
`record_recall` stores, and `apply_pending_tombstone_in_txn` (`messageKey`).

The idempotency key writes the length of each part before it and tells all messages apart
(`idempotencyKey_injective`). The correlation key has only colons between its parts, so a colon can
move from the message id into the conversation id (`keyString_eq_iff`): the recall of one message then
has the key of another (`shifted_colon`).
-/

namespace ServerRS

structure IdempotencyKey where
  asStr : String
deriving DecidableEq

/-- `idempotency_key`; `str::len` counts bytes. -/
def SourceMessageRef.idempotencyKey (source : SourceMessageRef) : IdempotencyKey :=
  ⟨source.channel.asStr ++ ":" ++ toString source.accountId.utf8ByteSize ++ ":" ++ source.accountId ++
    ":" ++ toString source.messageId.utf8ByteSize ++ ":" ++ source.messageId⟩

namespace Recalls

open Lib

/-! ## Lengths before the parts -/

theorem colon_notMem_channel (channel : MessageSource) : ':' ∉ channel.asStr.toList := by
  cases channel <;> decide

theorem channel_of_asStr {a b : MessageSource} (h : a.asStr = b.asStr) : a = b := by
  revert h
  cases a <;> cases b <;> decide

theorem colon_notMem_number (n : ℕ) : ':' ∉ (toString n).toList := by
  intro h
  have hdig : ':' ∈ Nat.toDigits 10 n := by
    simpa [Nat.toString_eq_repr] using h
  have hdigit := Nat.isDigit_of_mem_toDigits (by decide) (by decide) hdig
  exact absurd hdigit (by decide)

/-- A part that has no colon in it ends before the first colon. -/
theorem colon_inj {a b r s : String} (ha : ':' ∉ a.toList) (hb : ':' ∉ b.toList)
    (h : a ++ ":" ++ r = b ++ ":" ++ s) : a = b ∧ r = s := by
  have hlist : a.toList ++ ':' :: r.toList = b.toList ++ ':' :: s.toList := by
    simpa [String.toList_append] using congrArg String.toList h
  obtain ⟨hfst, hsec⟩ := append_mark_inj ha hb hlist
  exact ⟨String.toList_injective hfst, String.toList_injective hsec⟩

theorem number_inj {m n : ℕ} (h : toString m = toString n) : m = n := by
  have hdig : Nat.toDigits 10 m = Nat.toDigits 10 n := by
    simpa [Nat.toString_eq_repr] using congrArg String.toList h
  have hvl := congrArg (fun digits => Nat.ofDigitChars 10 digits 0) hdig
  simpa using hvl

/-- A part behind its length. -/
theorem sized_inj {a b r s : String}
    (h : toString a.utf8ByteSize ++ ":" ++ (a ++ r) = toString b.utf8ByteSize ++ ":" ++ (b ++ s)) :
    a = b ∧ r = s := by
  obtain ⟨hsize, hrest⟩ := colon_inj (colon_notMem_number _) (colon_notMem_number _) h
  exact append_inj_of_size (number_inj hsize) hrest

theorem idempotencyKey_injective {s t : SourceMessageRef}
    (h : s.idempotencyKey = t.idempotencyKey) : s = t := by
  have hparts : ∀ source : SourceMessageRef, source.idempotencyKey.asStr =
      source.channel.asStr ++ ":" ++ (toString source.accountId.utf8ByteSize ++ ":" ++
        (source.accountId ++ (":" ++ (toString source.messageId.utf8ByteSize ++ ":" ++
          (source.messageId ++ ""))))) := by
    intro source
    simp [SourceMessageRef.idempotencyKey, String.append_assoc]
  have htext := congrArg IdempotencyKey.asStr h
  rw [hparts, hparts] at htext
  obtain ⟨hchan, hrest⟩ := colon_inj (colon_notMem_channel _) (colon_notMem_channel _) htext
  obtain ⟨hacc, hrest⟩ := sized_inj hrest
  obtain ⟨-, hrest⟩ := colon_inj (a := "") (b := "") (by simp) (by simp) (by simpa using hrest)
  obtain ⟨hmsg, -⟩ := sized_inj (r := "") (s := "") (by simpa using hrest)
  cases s
  cases t
  simp only [SourceMessageRef.mk.injEq]
  exact ⟨channel_of_asStr hchan, hacc, hmsg⟩

/-! ## Colons between the parts -/

/-- The conversation id of `b` goes on with a colon and what the message id of `a` begins with. -/
def Shifted (a b : RecallCorrelationKey) : Prop :=
  ∃ t, b.conversation.id = a.conversation.id ++ ":" ++ t ∧
    a.platformMessageId = t ++ ":" ++ b.platformMessageId

/-- Two correlations of one account that the key does not tell apart. The channel of a correlation is
not in the key. -/
def Confusable (a b : RecallCorrelationKey) : Prop :=
  a.conversation.kind = b.conversation.kind ∧
    (a.conversation.id = b.conversation.id ∧ a.platformMessageId = b.platformMessageId ∧
        a.channel ≠ b.channel ∨
      Shifted a b ∨ Shifted b a)

variable {a b : RecallCorrelationKey}

theorem shifted_iff : Shifted a b ↔
    ∃ t, b.conversation.id.toList = a.conversation.id.toList ++ ':' :: t ∧
      a.platformMessageId.toList = t ++ ':' :: b.platformMessageId.toList := by
  constructor
  · rintro ⟨t, hid, hmsg⟩
    exact ⟨t.toList, by simp [hid, String.toList_append], by simp [hmsg, String.toList_append]⟩
  · rintro ⟨t, hid, hmsg⟩
    refine ⟨String.ofList t, String.toList_injective ?_, String.toList_injective ?_⟩
    · simpa [String.toList_append] using hid
    · simpa [String.toList_append] using hmsg

theorem keyString_eq_iff (hacc : a.account = b.account) :
    keyString a = keyString b ↔ a = b ∨ Confusable a b := by
  have hlist : keyString a = keyString b ↔ a.conversation.kind = b.conversation.kind ∧
      a.conversation.id.toList ++ ':' :: a.platformMessageId.toList =
        b.conversation.id.toList ++ ':' :: b.platformMessageId.toList := by
    rw [← String.toList_inj, keyString_toList, keyString_toList, hacc]
    simp only [List.append_cancel_left_eq, List.cons.injEq, true_and]
    constructor
    · intro h
      obtain ⟨hkind, hrest⟩ := append_mark_inj (colon_notMem_kind _) (colon_notMem_kind _) h
      exact ⟨kind_of_asStr (String.toList_injective hkind), hrest⟩
    · rintro ⟨hkind, hrest⟩
      rw [hkind, hrest]
  have hsame : a = b ↔ a.conversation.kind = b.conversation.kind ∧
      a.conversation.id = b.conversation.id ∧ a.platformMessageId = b.platformMessageId ∧
        a.channel = b.channel := by
    obtain ⟨accountA, channelA, ⟨kindA, idA⟩, messageA⟩ := a
    obtain ⟨accountB, channelB, ⟨kindB, idB⟩, messageB⟩ := b
    obtain rfl : accountA = accountB := hacc
    simp only [RecallCorrelationKey.mk.injEq, ConversationRef.mk.injEq, true_and]
    constructor
    · rintro ⟨hchan, ⟨hkind, hid⟩, hmsg⟩
      exact ⟨hkind, hid, hmsg, hchan⟩
    · rintro ⟨hkind, hid, hmsg, hchan⟩
      exact ⟨hchan, ⟨hkind, hid⟩, hmsg⟩
  rw [hlist, append_mark_append_iff, String.toList_inj, String.toList_inj, ← shifted_iff,
    ← shifted_iff, hsame, Confusable]
  constructor
  · rintro ⟨hkind, ⟨hid, hmsg⟩ | hshift⟩
    · by_cases hchan : a.channel = b.channel
      · exact .inl ⟨hkind, hid, hmsg, hchan⟩
      · exact .inr ⟨hkind, .inl ⟨hid, hmsg, hchan⟩⟩
    · exact .inr ⟨hkind, .inr hshift⟩
  · rintro (⟨hkind, hid, hmsg, -⟩ | ⟨hkind, ⟨hid, hmsg, -⟩ | hshift⟩)
    · exact ⟨hkind, .inl ⟨hid, hmsg⟩⟩
    · exact ⟨hkind, .inl ⟨hid, hmsg⟩⟩
    · exact ⟨hkind, .inr hshift⟩

theorem awaits_tombstone_iff {message : InboundMessageEnvelope} {event : RecallEvent} :
    awaits message.source.accountRef (messageKey message) (event.tombstone none) = true ↔
      event.correlation.account = (messageCorrelation message).account ∧
        keyString event.correlation = keyString (messageCorrelation message) := by
  rw [← messageKey_eq, event.sameAccount]
  simp [awaits, RecallEvent.tombstone, messageCorrelation]

theorem confusable_irrefl (a : RecallCorrelationKey) : ¬Confusable a a := by
  have hshift : ¬Shifted a a := by
    rintro ⟨t, hid, -⟩
    have hlen := congrArg String.length hid
    rw [String.length_append, String.length_append, show ":".length = 1 from rfl] at hlen
    omega
  rintro ⟨-, ⟨-, -, hchan⟩ | h | h⟩
  · exact hchan rfl
  · exact hshift h
  · exact hshift h

/-- The keys tell messages and recalls apart, and a pending tombstone waits for the message of its
recall and for no other, unless a colon has moved or the channels differ. -/
theorem keys_agree_iff (s t : SourceMessageRef) (a b : RecallCorrelationKey)
    (message : InboundMessageEnvelope) (event : RecallEvent) :
    (s ≠ t → s.idempotencyKey ≠ t.idempotencyKey) ∧
        (a.account = b.account → a ≠ b → keyString a ≠ keyString b) ∧
        (awaits message.source.accountRef (messageKey message) (event.tombstone none) = true ↔
          event.correlation = messageCorrelation message) ↔
      (a.account = b.account → ¬Confusable a b) ∧
        (event.account = message.source.accountRef →
          ¬Confusable event.correlation (messageCorrelation message)) := by
  have hids : s ≠ t → s.idempotencyKey ≠ t.idempotencyKey := fun hne h =>
    hne (idempotencyKey_injective h)
  have hkeys : (a.account = b.account → a ≠ b → keyString a ≠ keyString b) ↔
      (a.account = b.account → ¬Confusable a b) := by
    refine imp_congr_right fun hacc => ?_
    rw [ne_eq, ne_eq, keyString_eq_iff hacc]
    constructor
    · intro h hconf
      refine h ?_ (.inr hconf)
      rintro rfl
      exact confusable_irrefl a hconf
    · rintro h hne (heq | hconf)
      · exact hne heq
      · exact h hconf
  have hlookup : (awaits message.source.accountRef (messageKey message) (event.tombstone none) = true ↔
        event.correlation = messageCorrelation message) ↔
      (event.account = message.source.accountRef →
        ¬Confusable event.correlation (messageCorrelation message)) := by
    rw [awaits_tombstone_iff, ← event.sameAccount]
    constructor
    · intro h hacc hconf
      have heq := h.mp ⟨hacc, (keyString_eq_iff hacc).mpr (.inr hconf)⟩
      rw [heq] at hconf
      exact confusable_irrefl _ hconf
    · intro h
      constructor
      · rintro ⟨hacc, hkey⟩
        exact ((keyString_eq_iff hacc).mp hkey).resolve_right (h hacc)
      · intro heq
        rw [heq]
        exact ⟨rfl, rfl⟩
  rw [hkeys, hlookup, and_iff_right hids]

/-! ## A colon that moves -/

namespace Scripted

/-- Message `3` of conversation `1:2`. -/
def spoken : InboundMessageEnvelope where
  source := ⟨.napCat, "10001", "3"⟩
  conversation := ⟨.group, "1:2"⟩
  actor := ⟨.external, "20002"⟩
  occurredAtUnixSecs := 1000
  normalizedText := "hello"
  segments := [.text "hello"]
  connectionEpochId := none
  senderProfile := none

/-- Message `2:3` of conversation `1` is recalled. -/
def recalled : RecallEvent where
  recallEventId := ⟨"7b0c1f4e-52c3-4f0e-9a7d-3de2b1c8a5f3", by decide⟩
  account := account
  kind := .group
  correlation := ⟨account, .napCat, ⟨.group, "1"⟩, "2:3"⟩
  operatorPlatformId := none
  occurredAtUnixSecs := 1001
  sameAccount := rfl

end Scripted

open Scripted in
theorem shifted_colon : ¬∀ (s t : SourceMessageRef) (a b : RecallCorrelationKey)
    (message : InboundMessageEnvelope) (event : RecallEvent),
    (s ≠ t → s.idempotencyKey ≠ t.idempotencyKey) ∧
      (a.account = b.account → a ≠ b → keyString a ≠ keyString b) ∧
      (awaits message.source.accountRef (messageKey message) (event.tombstone none) = true ↔
        event.correlation = messageCorrelation message) := by
  intro h
  obtain ⟨-, hkeys, -⟩ := h spoken.source spoken.source recalled.correlation
    (messageCorrelation spoken) spoken recalled
  exact hkeys rfl (by decide) (by decide)

end Recalls

end ServerRS

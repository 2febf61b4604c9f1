import ServerRS.Lib.Resync
import ServerRS.RecallSpool.Wal

/-!
# The frames of a recall spool

Some bytes begin with a frame when they open under the key (`opened`), and `decode_one` reads the frame
when what it holds is an event (`decodeOne_of_opened`), whatever follows it (`readsAs_take`).
`framing` says what recovery goes by: the frames, what looks like a torn tail, and the magic.
-/

namespace ServerRS.RecallSpool

open Lib
open Spool (Bytes SpoolKey JsonCodec Nonce KEY_ID_LEN NONCE_LEN TAG_LEN fromBeBytes toBeBytes)

namespace RecallWal

variable {E : Type} (self : RecallWal E)

/-- The length that the header of a frame gives. -/
def lengthField (bytes : Bytes) : ℕ := fromBeBytes ((bytes.drop 5).take 4)

/-- The bytes begin with the header of a frame, of a length that a frame can have. -/
def FrameHeader (bytes : Bytes) : Prop :=
  bytes.take 4 = MAGIC ∧ (bytes.drop 4).take 1 = [VERSION] ∧
    TAG_LEN ≤ lengthField bytes ∧ lengthField bytes ≤ MAX_FRAME_PLAINTEXT + TAG_LEN

instance (bytes : Bytes) : Decidable (FrameHeader bytes) :=
  inferInstanceAs (Decidable (_ ∧ _ ∧ _ ∧ _))

/-- The plaintext of the complete frame that the bytes begin with, when it authenticates. -/
def opened (bytes : Bytes) : Option Bytes :=
  if FrameHeader bytes ∧ HEADER_LEN + lengthField bytes ≤ bytes.length then
    (tryAssumeUniqueForKey ((bytes.drop 9).take NONCE_LEN)).bind fun nonce =>
      self.key.openInPlace nonce (bytes.take 9) ((bytes.drop HEADER_LEN).take (lengthField bytes))
  else none

def authenticLen (bytes : Bytes) : Option ℕ :=
  (self.opened bytes).map fun _ => HEADER_LEN + lengthField bytes

/-- What `decode_one` takes for a torn tail. -/
def looksTorn (bytes : Bytes) : Bool :=
  decide (bytes.length < HEADER_LEN) ||
    decide (FrameHeader bytes ∧ bytes.length < HEADER_LEN + lengthField bytes)

variable {self} {bytes plaintext : Bytes} {n : ℕ} {event : E}

theorem authenticLen_eq_some : self.authenticLen bytes = some n ↔
    (self.opened bytes).isSome ∧ n = HEADER_LEN + lengthField bytes := by
  rw [authenticLen, Option.map_eq_some_iff, Option.isSome_iff_exists]
  constructor
  · rintro ⟨plaintext, hope, rfl⟩
    exact ⟨⟨plaintext, hope⟩, rfl⟩
  · rintro ⟨⟨plaintext, hope⟩, rfl⟩
    exact ⟨plaintext, hope, rfl⟩

theorem header_of_opened (h : (self.opened bytes).isSome) :
    FrameHeader bytes ∧ HEADER_LEN + lengthField bytes ≤ bytes.length := by
  rw [opened] at h
  split at h
  · next hhdr => exact hhdr
  · cases h

variable (self) in
/-- The frames of the spool; the mark is the magic. -/
def framing : Framing UInt8 where
  frameLen := self.authenticLen
  torn := looksTorn
  marked bytes := decide (bytes.take 4 = MAGIC)
  frameLen_le := by
    intro rest n h
    obtain ⟨hope, rfl⟩ := authenticLen_eq_some.mp h
    exact ⟨Nat.add_pos_left (by decide) _, (header_of_opened hope).2⟩
  marked_of_frame := by
    intro rest n h
    exact decide_eq_true (header_of_opened (authenticLen_eq_some.mp h).1).1.1
  no_frame_of_unmarked := by
    intro rest htorn hunm k
    rw [looksTorn, Bool.or_eq_true, decide_eq_true_eq, decide_eq_true_eq] at htorn
    have hshort : rest.length < HEADER_LEN :=
      htorn.resolve_right fun h => of_decide_eq_false hunm h.1.1
    rw [Option.eq_none_iff_forall_ne_some]
    intro n h
    have hle := (header_of_opened (authenticLen_eq_some.mp h).1).2
    rw [List.length_drop] at hle
    omega

/-! ## Decoding -/

theorem decodeOne_of_header (hhdr : FrameHeader bytes)
    (hlong : HEADER_LEN + lengthField bytes ≤ bytes.length) : self.decodeOne bytes =
      match tryAssumeUniqueForKey ((bytes.drop 9).take NONCE_LEN) with
      | none => .error .invalidNonce
      | some nonce =>
        match self.key.openInPlace nonce (bytes.take 9)
          ((bytes.drop HEADER_LEN).take (lengthField bytes)) with
        | none => .error .authentication
        | some plaintext =>
          match self.json.fromSlice plaintext with
          | none => .error .invalidPayload
          | some event => .ok (HEADER_LEN + lengthField bytes, event) := by
  obtain ⟨hmagic, hver, hlen⟩ := hhdr
  have hlong' : ¬ bytes.length < HEADER_LEN := by omega
  rw [decodeOne, if_neg hlong', if_neg (not_not.mpr hmagic), if_neg (not_not.mpr hver)]
  exact (if_neg (not_not.mpr hlen)).trans (if_neg (Nat.not_lt.mpr hlong))

/-- What does not begin with a complete frame does not decode, and is torn or not. -/
theorem decodeOne_of_no_header
    (h : ¬ (FrameHeader bytes ∧ HEADER_LEN + lengthField bytes ≤ bytes.length)) :
    ∃ error, self.decodeOne bytes = .error error ∧ (error = .tornTail ↔ looksTorn bytes = true) := by
  rw [looksTorn, Bool.or_eq_true, decide_eq_true_eq, decide_eq_true_eq, decodeOne]
  split
  · next hshort => exact ⟨_, rfl, iff_of_true rfl (.inl hshort)⟩
  · next hlong =>
    rw [or_iff_right hlong]
    split
    · next hmagic => exact ⟨_, rfl, iff_of_false (fun h => by cases h) fun h => hmagic h.1.1⟩
    · next hmagic =>
      split
      · next hver => exact ⟨_, rfl, iff_of_false (fun h => by cases h) fun h => hver h.1.2.1⟩
      · next hver =>
        dsimp only
        split
        · next hlen => exact ⟨_, rfl, iff_of_false (fun h => by cases h) fun h => hlen h.1.2.2⟩
        · next hlen =>
          have hhdr : FrameHeader bytes :=
            ⟨not_not.mp hmagic, not_not.mp hver, not_not.mp hlen⟩
          have hcut : bytes.length < HEADER_LEN + lengthField bytes :=
            Nat.not_le.mp fun hle => h ⟨hhdr, hle⟩
          exact ⟨_, if_pos hcut, iff_of_true rfl ⟨hhdr, hcut⟩⟩

theorem decodeOne_of_opened (h : self.opened bytes = some plaintext)
    (hev : self.json.fromSlice plaintext = some event) :
    self.decodeOne bytes = .ok (HEADER_LEN + lengthField bytes, event) := by
  obtain ⟨hhdr, hlong⟩ := header_of_opened (h ▸ rfl : (self.opened bytes).isSome)
  rw [opened, if_pos ⟨hhdr, hlong⟩] at h
  obtain ⟨nonce, hnonce, hopen⟩ := Option.bind_eq_some_iff.mp h
  rw [decodeOne_of_header hhdr hlong, hnonce]
  dsimp only
  rw [hopen]
  dsimp only
  rw [hev]

/-- What is no frame of an event is an error, a torn tail when it looks like one. -/
theorem decodeOne_error
    (h : ∀ plaintext, self.opened bytes = some plaintext → self.json.fromSlice plaintext = none) :
    ∃ error, self.decodeOne bytes = .error error ∧ (error = .tornTail ↔ looksTorn bytes = true) := by
  by_cases hcomp : FrameHeader bytes ∧ HEADER_LEN + lengthField bytes ≤ bytes.length
  · rw [opened, if_pos hcomp] at h
    have hwhole : ¬ looksTorn bytes = true := by
      rw [looksTorn, Bool.or_eq_true, decide_eq_true_eq, decide_eq_true_eq]
      omega
    rw [decodeOne_of_header hcomp.1 hcomp.2]
    cases hnonce : tryAssumeUniqueForKey ((bytes.drop 9).take NONCE_LEN) with
    | none => exact ⟨_, rfl, iff_of_false (fun h => by cases h) hwhole⟩
    | some nonce =>
      rw [hnonce, Option.bind_some] at h
      dsimp only
      cases hopen : self.key.openInPlace nonce (bytes.take 9)
          ((bytes.drop HEADER_LEN).take (lengthField bytes)) with
      | none => exact ⟨_, rfl, iff_of_false (fun h => by cases h) hwhole⟩
      | some plaintext =>
        dsimp only
        rw [h plaintext hopen]
        exact ⟨_, rfl, iff_of_false (fun h => by cases h) hwhole⟩
  · exact decodeOne_of_no_header hcomp

variable (self bytes) in
theorem decodeOne_cases :
    (∃ plaintext event, self.opened bytes = some plaintext ∧
      self.json.fromSlice plaintext = some event ∧
      self.decodeOne bytes = .ok (HEADER_LEN + lengthField bytes, event)) ∨
    ∃ error, self.decodeOne bytes = .error error ∧ (error = .tornTail ↔ looksTorn bytes = true) := by
  by_cases hread : ∃ plaintext event, self.opened bytes = some plaintext ∧
      self.json.fromSlice plaintext = some event
  · obtain ⟨plaintext, event, hope, hev⟩ := hread
    exact .inl ⟨plaintext, event, hope, hev, decodeOne_of_opened hope hev⟩
  · refine .inr (decodeOne_error fun plaintext hope => ?_)
    rw [Option.eq_none_iff_forall_ne_some]
    exact fun event hev => hread ⟨plaintext, event, hope, hev⟩

/-! ## A frame and what follows -/

/-- A part of the first `n` bytes is not changed by what follows them. -/
theorem take_drop_take_append {more : Bytes} {offset length : ℕ} (h : offset + length ≤ n)
    (hn : n ≤ bytes.length) :
    ((bytes.take n ++ more).drop offset).take length = (bytes.drop offset).take length := by
  have htake : (bytes.take n).length = n := by rw [List.length_take, Nat.min_eq_left hn]
  rw [List.drop_append_of_le_length (by omega), List.take_append_of_le_length
    (by rw [List.length_drop]; omega), List.drop_take, List.take_take, Nat.min_eq_left (by omega)]

/-- A frame opens whatever follows it. -/
theorem opened_take_append (more : Bytes) (h : self.authenticLen bytes = some n) :
    self.opened (bytes.take n ++ more) = self.opened bytes ∧
      lengthField (bytes.take n ++ more) = lengthField bytes := by
  obtain ⟨hope, rfl⟩ := authenticLen_eq_some.mp h
  obtain ⟨hhdr, hlong⟩ := header_of_opened hope
  have hheaderLen : HEADER_LEN = 21 := rfl
  have hnonceLen : NONCE_LEN = 12 := rfl
  have hpart : ∀ offset length, offset + length ≤ HEADER_LEN + lengthField bytes →
      ((bytes.take (HEADER_LEN + lengthField bytes) ++ more).drop offset).take length =
        (bytes.drop offset).take length :=
    fun offset length hle => take_drop_take_append hle hlong
  have hlengthField : lengthField (bytes.take (HEADER_LEN + lengthField bytes) ++ more) =
      lengthField bytes := by
    rw [lengthField, hpart 5 4 (by omega), lengthField]
  have hfront : ∀ length, length ≤ HEADER_LEN + lengthField bytes →
      (bytes.take (HEADER_LEN + lengthField bytes) ++ more).take length = bytes.take length :=
    fun length hle => hpart 0 length (by omega)
  refine ⟨?_, hlengthField⟩
  have hhdr' : FrameHeader (bytes.take (HEADER_LEN + lengthField bytes) ++ more) := by
    rw [FrameHeader, hlengthField, hfront 4 (by omega), hpart 4 1 (by omega)]
    exact hhdr
  have hlong' : HEADER_LEN + lengthField bytes ≤
      (bytes.take (HEADER_LEN + lengthField bytes) ++ more).length := by
    rw [List.length_append, List.length_take, Nat.min_eq_left hlong]
    exact Nat.le_add_right _ _
  rw [opened, hlengthField, if_pos ⟨hhdr', hlong'⟩, hpart 9 NONCE_LEN (by omega),
    hfront 9 (by omega), hpart HEADER_LEN (lengthField bytes) (by omega), opened,
    if_pos ⟨hhdr, hlong⟩]

variable (self) in
/-- The bytes are a frame of the event, whatever follows them. -/
def ReadsAs (data : Bytes) (event : E) : Prop :=
  0 < data.length ∧ ∀ more, self.decodeOne (data ++ more) = .ok (data.length, event)

/-- What decodes is a frame. -/
theorem readsAs_take (h : self.decodeOne bytes = .ok (n, event)) :
    self.ReadsAs (bytes.take n) event := by
  obtain ⟨plaintext, other, hope, hev, hok⟩ | ⟨error, herr, -⟩ := self.decodeOne_cases bytes
  · obtain ⟨rfl, rfl⟩ := Prod.mk.inj (Except.ok.inj (h.symm.trans hok))
    have hauth := authenticLen_eq_some.mpr ⟨Option.isSome_iff_exists.mpr ⟨_, hope⟩, rfl⟩
    obtain ⟨hpos, hle⟩ := self.framing.frameLen_le hauth
    rw [ReadsAs, List.length_take, Nat.min_eq_left hle]
    refine ⟨hpos, fun more => ?_⟩
    obtain ⟨hsame, hfield⟩ := opened_take_append more hauth
    rw [decodeOne_of_opened (hsame.trans hope) hev, hfield]
  · cases h.symm.trans herr

end RecallWal

end ServerRS.RecallSpool
